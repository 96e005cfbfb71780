import Agtp.Ans.Methods
import Agtp.Presence.CrossScopeFaults

/-! # Federated resolution

`RESOLVE`: a name that is not bound here is asked for at the peers whose keys are pinned. The
first binding that verifies under the key of its peer is the answer, whatever it binds. -/

namespace Agtp.Ans

open CrossScope (Reply rpartition)
open PresenceRecord (unb64url)
open Status

structure Peer where
  endpoint : String
  publicKeyRaw : Bytes
  deriving DecidableEq

structure Forwarded where
  body : Json
  extraHeaders : List (String × String)

abbrev Federation := Peer → Forwarded → Except Raised Reply

/-- What a name server resolves with: the signing of its answers, and its peers. -/
structure Resolver where
  signing : Option (Json → Except Raised Json)
  federationTrust : Option (List Peer)

section Resolving

variable [Floats] [TextCase] [TextOf] [NumberText] [BodyCodec] [JsonCodec]
  [SignatureScheme Bytes] [ReplyText] [DigitText]

/-! ## Signatures -/

def verifyResultSet (publicKey : Bytes) (results signature : Json) : Bool :=
  match signature with
  | .object members =>
      match Json.get members "algorithm", Json.get members "value" with
      | .string algorithm, .string text =>
          match unb64url text with
          | some value => algorithm = "EdDSA" &&
              SignatureScheme.verifies publicKey value (JsonCodec.canonical results)
          | none => false
      | _, _ => false
  | _ => false

def signPayload (resolver : Resolver) (payload : List (String × Json)) (key : String) :
    List (String × Json) :=
  match resolver.signing with
  | none => payload
  | some sign =>
      match sign (Json.get payload key) with
      | .ok signature => Dict.setEntries "ans_signature" signature payload
      | .error _ => payload

/-! ## Peers -/

def bindingOf (peer : Peer) (reply : Reply) : Except Raised (Option (List (String × Json))) :=
  match reply with
  | .failed => .ok none
  | .response statusCode body =>
      if statusCode ≠ 200 ∨ body = [] then .ok none
      else
        match ReplyText.loads body with
        | .error .malformed => .ok none
        | .error .other => .error .valueError
        | .ok (.object data) =>
            match Json.get data "binding" with
            | .object remoteBinding =>
                if peer.publicKeyRaw.length ≠ 32 then .error .valueError
                else if verifyResultSet peer.publicKeyRaw (.object remoteBinding)
                    (Json.get data "ans_signature") then .ok (some remoteBinding)
                else .ok none
            | _ => .ok none
        | .ok _ => .error .attributeError

/-- Ask one peer. One without a host or a port is passed over. -/
def ask (federation : Federation) (forwarded : Forwarded) (peer : Peer) :
    Except Raised (Option (List (String × Json))) :=
  let (host, port) := rpartition peer.endpoint
  if host = "" ∨ DigitText.isDigit port = false then .ok none
  else
    match NumberText.intOfText port with
    | none => .error .valueError
    | some _ =>
        match federation peer forwarded with
        | .error raised => .error raised
        | .ok reply => bindingOf peer reply

def firstBinding (federation : Federation) (forwarded : Forwarded) :
    List Peer → Except Raised (Option (List (String × Json) × List String))
  | [] => .ok none
  | peer :: peers =>
      match ask federation forwarded peer with
      | .error raised => .error raised
      | .ok (some binding) => .ok (some (binding, [peer.endpoint]))
      | .ok none => firstBinding federation forwarded peers

def requesterOf (request : Request) : String :=
  if Wire.readAgentId request.headers ≠ "" then Wire.readAgentId request.headers
  else Wire.header request.headers "Agent-Identity"

def federatedResolve (federation : Federation) (peers : List Peer) (request : Request)
    (name : String) : Except Raised (Option (List (String × Json) × List String)) :=
  let requester := requesterOf request
  firstBinding federation
    ⟨.object [("name", .string name), ("federated", .bool true)],
      if requester ≠ "" then [("Agent-Identity", requester)] else []⟩ peers

/-! ## RESOLVE -/

def isTruthy : Json → Bool := Presence.flag

def notFound (name : String) : Response :=
  (errorResponse 404 "Not Found" "name-not-found"
    s!"no active binding for name {TextOf.quoted name} in this or any federated authority."
    []).toResponse

def federatedAnswer (resolver : Resolver) (name : String) (remoteBinding : List (String × Json))
    (path : List String) : Response where
  status := 200
  statusText := "OK"
  headers := []
  body := .object (signPayload resolver
    [("method", .string "RESOLVE"),
      ("name", (Json.member remoteBinding "name").getD (.string (Text.strip name))),
      ("binding", .object remoteBinding), ("federation_path", Status.texts path)] "binding")

def handleResolve (resolver : Resolver) (federation : Federation) (request : Request)
    (names : NameStore) : Except Raised Response :=
  let missing : Response := (errorResponse 400 "Bad Request" "resolve-missing-name"
    "RESOLVE requires a 'name' parameter." []).toResponse
  match params request with
  | .error raised => .error raised
  | .ok members =>
      match Json.get members "name" with
      | .string name =>
          if Text.strip name = "" then .ok missing
          else
            match names.resolve name with
            | some binding =>
                .ok ⟨200, "OK", [], .object (signPayload resolver
                  [("method", .string "RESOLVE"), ("name", .string binding.name),
                    ("binding", binding.toDict)] "binding")⟩
            | none =>
                match resolver.federationTrust with
                | some (peer :: peers) =>
                    if isTruthy (Json.get members "federated") then .ok (notFound name)
                    else
                      match federatedResolve federation (peer :: peers) request
                          (Text.strip name) with
                      | .error raised => .error raised
                      | .ok none => .ok (notFound name)
                      | .ok (some (remoteBinding, path)) =>
                          .ok (federatedAnswer resolver name remoteBinding path)
                | _ => .ok (notFound name)
      | _ => .ok missing

/-! ## What an answer has to be -/

structure Binds (name : String) (binding : List (String × Json)) : Prop where
  name : ∃ text, Json.get binding "name" = .string text ∧
    NameStore.nameKey text = NameStore.nameKey name
  status : Json.get binding "status" = .string "active"

def Unforgeable (signed : Bytes → Bytes → Prop) : Prop :=
  ∀ key signature message, SignatureScheme.verifies key signature message = true →
    signed key message

def Resolves (signed : Bytes → Bytes → Prop) (peers : List Peer) (name : String)
    (response : Response) : Prop :=
  ∃ payload binding, response.body = .object payload ∧
    Json.get payload "binding" = .object binding ∧
    (∃ peer ∈ peers, signed peer.publicKeyRaw (JsonCodec.canonical (.object binding))) ∧
    Binds name binding

/-- The request asks for a name that only the peers can know. -/
structure AsksPeers (request : Request) (names : NameStore) (name : String) : Prop where
  asks : ∃ members, params request = .ok members ∧ Json.get members "name" = .string name ∧
    isTruthy (Json.get members "federated") = false
  named : Text.strip name ≠ ""
  unbound : names.resolve name = none

structure Addressed (peer : Peer) : Prop where
  host : (rpartition peer.endpoint).1 ≠ ""
  digits : DigitText.isDigit (rpartition peer.endpoint).2 = true
  key : peer.publicKeyRaw.length = 32

def askable (peer : Peer) : Bool :=
  (rpartition peer.endpoint).1 = "" || !DigitText.isDigit (rpartition peer.endpoint).2 ||
    (NumberText.intOfText (rpartition peer.endpoint).2).isSome

def HasSigned (peer : Peer) (binding : List (String × Json)) : Prop :=
  ∃ body data, body ≠ [] ∧ ReplyText.loads body = .ok (.object data) ∧
    Json.get data "binding" = .object binding ∧
    verifyResultSet peer.publicKeyRaw (.object binding) (Json.get data "ans_signature") = true

/-- All that the peers have ever signed are active bindings of the name. Nothing is asked from
a port that is not a number on. -/
def SignOnly (peers : List Peer) (name : String) : Prop :=
  ∀ peer ∈ peers.takeWhile askable, Addressed peer → ∀ binding, HasSigned peer binding →
    Binds name binding

/-! ## What a reply can lead to -/

omit [Floats] [TextCase] [TextOf] [NumberText] [BodyCodec] [JsonCodec] [SignatureScheme Bytes]
  [ReplyText] [DigitText] in
theorem member_signPayload (resolver : Resolver) (payload : List (String × Json)) (key : String) :
    Json.get (signPayload resolver payload key) "binding" = Json.get payload "binding" := by
  unfold signPayload
  split
  · rfl
  · split
    · rw [Json.get, Json.member_setEntries_other (by decide), Json.get]
    · rfl

omit [Floats] [TextCase] [TextOf] [NumberText] [BodyCodec] [DigitText] in
theorem bindingOf_eq_some_iff {peer : Peer} {reply : Reply} {binding : List (String × Json)} :
    bindingOf peer reply = .ok (some binding) ↔
      peer.publicKeyRaw.length = 32 ∧ ∃ body data, reply = .response 200 body ∧ body ≠ [] ∧
        ReplyText.loads body = .ok (.object data) ∧ Json.get data "binding" = .object binding ∧
        verifyResultSet peer.publicKeyRaw (.object binding) (Json.get data "ans_signature") =
          true := by
  constructor
  · intro taken
    unfold bindingOf at taken
    split at taken
    · cases taken
    · next statusCode body =>
        split at taken
        · cases taken
        · next answered =>
            split at taken
            · cases taken
            · cases taken
            · next data loaded =>
                split at taken
                · next remoteBinding held =>
                    split at taken
                    · cases taken
                    · next length =>
                        split at taken
                        · next verified =>
                            cases taken
                            rw [not_or, not_not] at answered
                            exact ⟨not_not.mp length, body, data, by rw [answered.1], answered.2,
                              loaded, held, verified⟩
                        · cases taken
                · cases taken
            · cases taken
  · intro ⟨length, body, data, isReply, present, loaded, held, verified⟩
    rw [isReply]
    simp [bindingOf, present, loaded, held, length, verified]

omit [Floats] [TextCase] [TextOf] [BodyCodec] in
theorem ask_eq_some {federation : Federation} {forwarded : Forwarded} {peer : Peer}
    {binding : List (String × Json)} (asked : ask federation forwarded peer = .ok (some binding)) :
    Addressed peer ∧ HasSigned peer binding := by
  unfold ask at asked
  dsimp only at asked
  split at asked
  · cases asked
  · next endpoint =>
      rw [not_or] at endpoint
      split at asked
      · cases asked
      · split at asked
        · cases asked
        · rcases bindingOf_eq_some_iff.mp asked with
            ⟨length, body, data, _, present, loaded, held, verified⟩
          exact ⟨⟨endpoint.1, Bool.eq_true_of_not_eq_false endpoint.2, length⟩,
            body, data, present, loaded, held, verified⟩

omit [Floats] [TextCase] [TextOf] [BodyCodec] in
theorem askable_of_ask {federation : Federation} {forwarded : Forwarded} {peer : Peer}
    {answer : Option (List (String × Json))}
    (asked : ask federation forwarded peer = .ok answer) : askable peer = true := by
  unfold ask at asked
  dsimp only at asked
  split at asked
  · next passed =>
      rcases passed with host | digits
      · simp [askable, host]
      · simp [askable, digits]
  · split at asked
    · cases asked
    · next port read => simp [askable, read]

omit [Floats] [TextCase] [TextOf] [BodyCodec] in
theorem peer_of_firstBinding {federation : Federation} {forwarded : Forwarded}
    {peers : List Peer} {binding : List (String × Json)} {path : List String}
    (found : firstBinding federation forwarded peers = .ok (some (binding, path))) :
    ∃ peer ∈ peers.takeWhile askable, Addressed peer ∧ HasSigned peer binding := by
  induction peers with
  | nil => cases found
  | cons peer peers induction =>
      rw [firstBinding] at found
      split at found
      · cases found
      · next asked =>
          cases found
          rw [List.takeWhile_cons_of_pos (askable_of_ask asked)]
          exact ⟨peer, List.mem_cons_self, ask_eq_some asked⟩
      · next asked =>
          rcases induction found with ⟨other, member, facts⟩
          rw [List.takeWhile_cons_of_pos (askable_of_ask asked)]
          exact ⟨other, List.mem_cons_of_mem _ member, facts⟩

/-! ## What can be replayed -/

def answering (peer : Peer) (body : Bytes) : Federation :=
  fun other _ => .ok (if other = peer then .response 200 body else .failed)

omit [Floats] [TextCase] [TextOf] [BodyCodec] in
theorem ask_answering_other {forwarded : Forwarded} {peer other : Peer} (different : other ≠ peer)
    (body : Bytes) (asked : askable other = true) :
    ask (answering peer body) forwarded other = .ok none := by
  unfold ask
  dsimp only
  split
  · rfl
  · next endpoint =>
      rw [not_or, Bool.not_eq_false] at endpoint
      split
      · next unread => simp [askable, endpoint, unread] at asked
      · simp [answering, different, bindingOf]

omit [Floats] [TextCase] [TextOf] [BodyCodec] in
theorem ask_answering_same {forwarded : Forwarded} {peer : Peer} (addressed : Addressed peer)
    (asked : askable peer = true) {binding : List (String × Json)} {body : Bytes}
    {data : List (String × Json)} (present : body ≠ [])
    (loaded : ReplyText.loads body = .ok (.object data))
    (held : Json.get data "binding" = .object binding)
    (verified : verifyResultSet peer.publicKeyRaw (.object binding)
      (Json.get data "ans_signature") = true) :
    ask (answering peer body) forwarded peer = .ok (some binding) := by
  have port : (NumberText.intOfText (rpartition peer.endpoint).2).isSome := by
    simpa [askable, addressed.host, addressed.digits] using asked
  rcases Option.isSome_iff_exists.mp port with ⟨number, read⟩
  have taken : bindingOf peer (.response 200 body) = .ok (some binding) :=
    bindingOf_eq_some_iff.mpr
      ⟨addressed.key, body, data, rfl, present, loaded, held, verified⟩
  simp [ask, addressed.host, addressed.digits, read, answering, taken]

omit [Floats] [TextCase] [TextOf] [BodyCodec] in
theorem firstBinding_answering {forwarded : Forwarded} {peers : List Peer} {peer : Peer}
    {binding : List (String × Json)} {body : Bytes} (member : peer ∈ peers.takeWhile askable)
    (own : ask (answering peer body) forwarded peer = .ok (some binding)) :
    ∃ path, firstBinding (answering peer body) forwarded peers = .ok (some (binding, path)) := by
  induction peers with
  | nil => exact absurd member List.not_mem_nil
  | cons first peers induction =>
      rw [List.takeWhile_cons] at member
      split at member
      · next asked =>
          rw [firstBinding]
          by_cases same : first = peer
          · rw [same, own]
            exact ⟨_, rfl⟩
          · rw [ask_answering_other same body asked]
            exact induction ((List.mem_cons.mp member).resolve_left fun isFirst =>
              same isFirst.symm)
      · exact absurd member List.not_mem_nil

/-! ## The answer -/

def Resolver.peers (resolver : Resolver) : List Peer := resolver.federationTrust.getD []

omit [Floats] in
theorem handleResolve_of_asksPeers (resolver : Resolver) (federation : Federation)
    {request : Request} {names : NameStore} {name : String}
    (asks : AsksPeers request names name) :
    handleResolve resolver federation request names =
      (federatedResolve federation resolver.peers request (Text.strip name)).map fun
        | none => notFound name
        | some (remoteBinding, path) => federatedAnswer resolver name remoteBinding path := by
  rcases asks.asks with ⟨members, read, isName, plain⟩
  unfold handleResolve
  simp only [read, isName, if_neg asks.named, asks.unbound, plain]
  cases trust : resolver.federationTrust with
  | none => simp [Resolver.peers, trust, federatedResolve, firstBinding, Except.map]
  | some peers =>
      cases peers with
      | nil => simp [Resolver.peers, trust, federatedResolve, firstBinding, Except.map]
      | cons peer peers =>
          simp only [Resolver.peers, trust, Option.getD_some, Bool.false_eq_true, if_false]
          cases federatedResolve federation (peer :: peers) request (Text.strip name) with
          | error raised => rfl
          | ok found =>
              cases found with
              | none => rfl
              | some => rfl

omit [Floats] [TextCase] [TextOf] [NumberText] [BodyCodec] [JsonCodec] [SignatureScheme Bytes]
  [ReplyText] [DigitText] in
theorem binding_of_federatedAnswer {resolver : Resolver} {name : String}
    {remoteBinding : List (String × Json)} {path : List String} {payload : List (String × Json)}
    (body : (federatedAnswer resolver name remoteBinding path).body = .object payload) :
    Json.get payload "binding" = .object remoteBinding := by
  rw [← Json.object.inj body, member_signPayload]
  rfl

omit [Floats] in
theorem resolves_of_signOnly {signed : Bytes → Bytes → Prop} (unforgeable : Unforgeable signed)
    {resolver : Resolver} {federation : Federation} {request : Request} {names : NameStore}
    {name : String} {response : Response} (asks : AsksPeers request names name)
    (signOnly : SignOnly resolver.peers name)
    (answered : handleResolve resolver federation request names = .ok response)
    (success : response.status = 200) : Resolves signed resolver.peers name response := by
  rw [handleResolve_of_asksPeers resolver federation asks] at answered
  cases found : federatedResolve federation resolver.peers request (Text.strip name) with
  | error raised => rw [found] at answered; cases answered
  | ok binding =>
      rw [found] at answered
      cases binding with
      | none =>
          cases answered
          cases success
      | some binding =>
          rcases binding with ⟨remoteBinding, path⟩
          cases answered
          rcases peer_of_firstBinding found with ⟨peer, member, addressed, hasSigned⟩
          refine ⟨_, remoteBinding, rfl, binding_of_federatedAnswer rfl, ⟨peer,
            (List.takeWhile_sublist _).subset member, ?_⟩,
            signOnly peer member addressed remoteBinding hasSigned⟩
          rcases hasSigned with ⟨_, _, _, _, _, verified⟩
          unfold verifyResultSet at verified
          split at verified
          · split at verified
            · split at verified
              · exact unforgeable _ _ _ (Bool.and_eq_true_iff.mp verified).2
              · cases verified
            · cases verified
          · cases verified

omit [Floats] in
theorem signOnly_of_resolves {signed : Bytes → Bytes → Prop} {resolver : Resolver}
    {request : Request} {names : NameStore} {name : String} (asks : AsksPeers request names name)
    (resolves : ∀ federation response,
      handleResolve resolver federation request names = .ok response → response.status = 200 →
        Resolves signed resolver.peers name response) : SignOnly resolver.peers name := by
  intro peer member addressed binding hasSigned
  rcases hasSigned with ⟨body, data, present, loaded, held, verified⟩
  have asked : askable peer = true := List.mem_takeWhile_imp member
  rcases firstBinding_answering member (ask_answering_same addressed asked present loaded held
    verified) with ⟨path, found⟩
  have answered := handleResolve_of_asksPeers resolver (answering peer body) asks
  rw [federatedResolve, found] at answered
  rcases resolves _ _ answered rfl with ⟨payload, given, isPayload, isBinding, _, binds⟩
  rw [binding_of_federatedAnswer isPayload] at isBinding
  rw [Json.object.inj isBinding]
  exact binds

omit [Floats] in
/-- Whatever is delivered, the answer is an active binding of the name exactly if the peers have
signed nothing but such bindings. -/
theorem federation_answers_iff {signed : Bytes → Bytes → Prop} (unforgeable : Unforgeable signed)
    {resolver : Resolver} {request : Request} {names : NameStore} {name : String}
    (asks : AsksPeers request names name) :
    (∀ federation response, handleResolve resolver federation request names = .ok response →
      response.status = 200 → Resolves signed resolver.peers name response) ↔
      SignOnly resolver.peers name :=
  ⟨signOnly_of_resolves asks, fun signOnly _ _ => resolves_of_signOnly unforgeable asks signOnly⟩

end Resolving

end Agtp.Ans

namespace Agtp.Ans.FederationSamples

open scoped Agtp.Plain
open scoped CrossScopeSamples

scoped instance : JsonCodec where
  canonical := StandardJson.canonical
  loads := StandardJson.loads

def binding : List (String × Json) :=
  [("name", .string "mallory"), ("agent_id", .string "m1"), ("status", .string "active")]

def key : Bytes := List.replicate 32 0

scoped instance : SignatureScheme Bytes where
  verifies publicKey signature message :=
    publicKey = key && signature = [1, 2, 3] && message = StandardJson.canonical (.object binding)

def signed (publicKey message : Bytes) : Prop :=
  publicKey = key ∧ message = StandardJson.canonical (.object binding)

theorem signed_unforgeable : Unforgeable signed := by
  intro publicKey signature message verified
  have facts : (publicKey = key ∧ signature = [1, 2, 3]) ∧
      message = StandardJson.canonical (.object binding) := by
    simpa [SignatureScheme.verifies] using verified
  exact ⟨facts.1.1, facts.2⟩

def peer : Peer := ⟨"b:2", key⟩

def resolver : Resolver := ⟨none, some [peer]⟩

def request : Request := { Request.toRoot "RESOLVE" [] with query := .ofList [("name", "alice")] }

theorem request_asksPeers : AsksPeers request ⟨.empty, .empty⟩ "alice" where
  asks := ⟨[("name", .string "alice")], rfl, rfl, by decide⟩
  named := by decide
  unbound := rfl

def replayed : List (String × Json) :=
  [("binding", .object binding),
    ("ans_signature", .object [("algorithm", .string "EdDSA"), ("value", .string "AQID")])]

theorem held_texts {members : List (String × Json)} (distinct : (members.map Prod.fst).Nodup)
    (texts : ∀ member ∈ members, ∃ text, member.2 = .string text) :
    JsonText.Held (.object members) := by
  refine .object distinct fun member own => ?_
  rcases texts member own with ⟨text, same⟩
  rw [same]
  exact .string text

theorem held_replayed : JsonText.Held (.object replayed) := by
  refine .object (by decide) fun member own => ?_
  rcases List.mem_cons.mp own with same | rest
  · rw [same]
    exact held_texts (by decide) (by simp [binding])
  · rw [List.mem_singleton.mp rest]
    exact held_texts (by decide) (by simp)

theorem hasSigned : HasSigned peer binding := by
  refine ⟨Utf8.encode (JsonText.text (.object replayed)), replayed, ?_, ?_, rfl, ?_⟩
  · decide
  · have read : JsonText.loads StandardJson.usualLimits (JsonText.text (.object replayed)) =
        .ok (.object replayed) := by
      rw [JsonText.loads_text held_replayed]
      rfl
    simp only [ReplyText.loads, Utf8.decode?_encode, read]
  · decide +kernel

/-- Asked for `alice`, the server answers with the binding of `mallory`. -/
theorem replay_accepted : ¬∀ federation response,
    handleResolve resolver federation request ⟨.empty, .empty⟩ = .ok response →
      response.status = 200 → Resolves signed resolver.peers "alice" response := by
  intro resolves
  have binds := signOnly_of_resolves request_asksPeers resolves peer
    (List.mem_cons_self) ⟨by decide, by decide, by decide⟩ binding hasSigned
  rcases binds.name with ⟨text, isText, same⟩
  cases isText
  revert same
  decide

theorem alice_answers_iff :
    (∀ federation response,
      handleResolve resolver federation request ⟨.empty, .empty⟩ = .ok response →
        response.status = 200 → Resolves signed resolver.peers "alice" response) ↔
      SignOnly resolver.peers "alice" :=
  federation_answers_iff signed_unforgeable request_asksPeers

end Agtp.Ans.FederationSamples
