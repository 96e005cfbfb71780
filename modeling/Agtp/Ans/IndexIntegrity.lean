import Agtp.Ans.Methods
import Agtp.Presence.GossipLaws

/-! # Index integrity

Whether a record can be found, or scored, under a capability that its methods do not stand for.
-/

namespace Agtp

/-! ## What is added to a store -/

def PresenceStore.Grows (before after : PresenceStore) (added : PresenceRecord → Prop) :
    Prop :=
  ∀ agentId record, after.records.get? agentId = some record →
    before.records.get? agentId = some record ∨ added record

namespace PresenceStore

variable {before middle after store : PresenceStore} {added more : PresenceRecord → Prop}

theorem Grows.refl (store : PresenceStore) (added : PresenceRecord → Prop) :
    store.Grows store added :=
  fun _ _ held => .inl held

theorem Grows.trans (first : before.Grows middle added) (second : middle.Grows after added) :
    before.Grows after added := by
  intro agentId record held
  rcases second agentId record held with there | new
  · exact first agentId record there
  · exact .inr new

theorem Grows.mono (grows : before.Grows after added)
    (implies : ∀ record, added record → more record) : before.Grows after more :=
  fun agentId record held => (grows agentId record held).imp_right (implies record)

theorem grows_put (store : PresenceStore) (record : PresenceRecord) :
    store.Grows (store.put record) (· = record) := by
  intro agentId held found
  by_cases same : agentId = record.agentId
  · rw [same, get?_put_same] at found
    exact .inr (Option.some.inj found).symm
  · exact .inl ((get?_put_other store same).symm.trans found)

theorem grows_sweep [Floats] {swept : PresenceStore} {now : ℚ}
    (done : store.sweep now = .ok swept) (added : PresenceRecord → Prop) :
    store.Grows swept added :=
  fun _ _ held => .inl (held_of_sweep done held)

end PresenceStore

section Integrity

variable [Floats] [TextCase] [TextOf] [NumberText] [MethodCatalog]

namespace PresenceRecord

def Backs (record : PresenceRecord) (capability : String) : Prop :=
  ∃ tokens, Scopes.deriveCapabilitiesFromMethods
      (Json.get record.resultEntry "supported_methods") false = .ok tokens ∧
    capability ∈ tokens

def Supported (record : PresenceRecord) : Prop :=
  ∀ items, record.capabilities = .ok items →
    ∀ capability, .string capability ∈ items → record.Backs capability

end PresenceRecord

namespace PresenceRegistry

def BuiltWild (registry : PresenceRegistry) (record : PresenceRecord) : Prop :=
  ∃ agentId document visibility ttl reading built,
    registry.hosted agentId = some document ∧ document.requires.wildcards = true ∧
      Presence.buildRecord document registry.relayEndpoint visibility ttl reading =
        .ok built ∧
      record = Presence.signed registry built

def Justifies (registry : PresenceRegistry) (record : PresenceRecord)
    (capability : String) : Prop :=
  record.Backs capability ∨ registry.BuiltWild record

def Sound (registry : PresenceRegistry) (record : PresenceRecord) : Prop :=
  record.Supported ∨ registry.BuiltWild record

omit [Floats] [NumberText] in
theorem Sound.justifies {registry : PresenceRegistry} {record : PresenceRecord}
    (sound : registry.Sound record) {items : List Json}
    (listed : record.capabilities = .ok items) {capability : String}
    (member : .string capability ∈ items) : registry.Justifies record capability :=
  sound.imp_left fun supported => supported items listed capability member

end PresenceRegistry

namespace Presence

open PresenceRecord

/-! ## What a coordinator builds -/

omit [Floats] [NumberText] [TextCase] [MethodCatalog] [TextOf] in
theorem capabilities_of_array {record : PresenceRecord} {values : List Json}
    (listed : Json.member record.resultEntry "capabilities" = some (.array values)) :
    record.capabilities = .ok values := by
  unfold PresenceRecord.capabilities
  rw [listed]
  rfl

omit [Floats] [NumberText] in
theorem supported_of_derived {record : PresenceRecord} {tokens found : List String}
    (derived : Scopes.deriveCapabilitiesFromMethods
      (Json.get record.resultEntry "supported_methods") false = .ok found)
    (within : ∀ token ∈ tokens, token ∈ found)
    (listed : Json.member record.resultEntry "capabilities" =
      some (.array ((Scopes.sortedSet tokens).map .string))) : record.Supported := by
  intro items read capability member
  rw [capabilities_of_array listed] at read
  cases read
  rcases List.mem_map.mp member with ⟨token, sorted, ⟨⟩⟩
  exact ⟨found, derived, within capability ((Scopes.mem_sortedSet tokens _).mp sorted)⟩

omit [Floats] [NumberText] in
theorem supported_congr {left right : PresenceRecord}
    (same : left.resultEntry = right.resultEntry) (supported : left.Supported) :
    right.Supported := by
  unfold PresenceRecord.Supported PresenceRecord.Backs PresenceRecord.capabilities
    at supported ⊢
  rwa [same] at supported

omit [Floats] [NumberText] in
theorem supported_of_buildRecord {document : DocumentFields} {relay : Option String}
    {visibility : Visibility} {ttl : Int} {reading : Reading} {built : PresenceRecord}
    (tame : document.requires.wildcards = false)
    (ended : buildRecord document relay visibility ttl reading = .ok built) :
    built.Supported := by
  unfold buildRecord Scopes.deriveCapabilities at ended
  rw [tame] at ended
  cases derived : Scopes.deriveCapabilitiesFromMethods
      (.array document.requires.methods) false with
  | error raised =>
      rw [derived] at ended
      cases ended
  | ok tokens =>
      rw [derived] at ended
      cases ended
      exact supported_of_derived derived (fun _ member => member) rfl

omit [Floats] [NumberText] in
theorem sound_of_buildRecord {registry : PresenceRegistry} {agentId : String}
    {document : DocumentFields} {visibility : Visibility} {ttl : Int} {reading : Reading}
    {built : PresenceRecord} (hosted : registry.hosted agentId = some document)
    (ended : buildRecord document registry.relayEndpoint visibility ttl reading =
      .ok built) : registry.Sound (signed registry built) := by
  by_cases wild : document.requires.wildcards = true
  · exact .inr ⟨agentId, document, visibility, ttl, reading, built, hosted, wild, ended, rfl⟩
  · have entry : built.resultEntry = (signed registry built).resultEntry := by
      unfold signed
      split <;> rfl
    exact .inl (supported_congr entry
      (supported_of_buildRecord (Bool.eq_false_iff.mpr wild) ended))

omit [Floats] [TextCase] [TextOf] [NumberText] [MethodCatalog] in
theorem nil_of_iterate {value : Json} {listed : List Json}
    (iterated : value.iterate = .ok listed) (empty : value.truthy ≠ true) :
    listed = [] := by
  cases value with
  | array values =>
      cases iterated
      simpa [Json.truthy] using empty
  | string text =>
      cases iterated
      simpa [Json.truthy] using empty
  | object members =>
      cases iterated
      simpa [Json.truthy] using empty
  | _ => cases iterated

omit [Floats] [NumberText] in
theorem derive_listed {methods : Json} {listed : List Json} {tokens : List String}
    (iterated : methods.iterate = .ok listed)
    (derived : Scopes.deriveCapabilitiesFromMethods methods false = .ok tokens) :
    ∃ found, Scopes.deriveCapabilitiesFromMethods (.array listed) false = .ok found ∧
      ∀ token ∈ tokens, token ∈ found := by
  unfold Scopes.deriveCapabilitiesFromMethods at derived ⊢
  simp only [Bool.false_eq_true, if_false, iterated] at derived ⊢
  by_cases given : methods.truthy = true
  · rw [if_pos given] at derived
    cases listed with
    | nil =>
        cases derived
        exact ⟨[], rfl, fun _ member => member⟩
    | cons first rest => exact ⟨tokens, derived, fun _ member => member⟩
  · rw [if_neg given] at derived
    cases derived
    rw [nil_of_iterate iterated given]
    exact ⟨[], rfl, fun _ member => member⟩

end Presence

namespace Ans

omit [Floats] [NumberText] in
theorem supported_of_recordFromManifest {agentId : Json} {key : String}
    {manifest : List (String × Json)} {reading : Reading} {record : PresenceRecord}
    (ended : recordFromManifest agentId key manifest reading = .ok record)
    (derives : (Json.get manifest "capabilities").truthy = false) : record.Supported := by
  unfold recordFromManifest manifestCapabilities at ended
  simp only [derives, Bool.false_eq_true, if_false] at ended
  cases derived : Scopes.deriveCapabilitiesFromMethods
      (Json.getOr manifest "supported_methods" (.array [])) false with
  | error raised =>
      rw [derived] at ended
      cases ended
  | ok tokens =>
      rw [derived] at ended
      cases iterated : (Json.getOr manifest "supported_methods" (.array [])).iterate with
      | error raised =>
          rw [iterated] at ended
          cases ended
      | ok listed =>
          rw [iterated] at ended
          cases ended
          rcases Presence.derive_listed iterated derived with ⟨found, relisted, within⟩
          exact Presence.supported_of_derived relisted within rfl

end Ans

/-! ## What a coordinator takes over -/

namespace Presence

variable [BodyCodec]

/-- The foreign record of an `ANNOUNCE` that is accepted. -/
def declaredByAnnounce (registry : PresenceRegistry) (reading : Reading)
    (request : Request) : Option PresenceRecord :=
  match mergedParams request with
  | .error _ => none
  | .ok params =>
      match Json.get params "record" with
      | .object raw =>
          (PresenceRecord.fromGossipDict reading.text (.object raw)).toOption.filter
            fun record => registry.verifyRecord record && registry.boundToGenesis record
      | _ => none

def declaredByReplicate (registry : PresenceRegistry) (moment : Gossip.Moment)
    (request : Request) : List PresenceRecord :=
  match parsedBody request with
  | .ok body => Gossip.acceptedRecords (accepts registry) moment body
  | .error _ => []

end Presence

namespace Ans

variable [BodyCodec]

/-- The record of a `REGISTER` whose manifest declares capabilities of its own. -/
def declaredByRegister (reading : Reading) (request : Request) : Option PresenceRecord :=
  match params request with
  | .error _ => none
  | .ok members =>
      match Json.get members "name" with
      | .string name =>
          let agentId := agentIdOf request members
          let manifest := namedManifest name (Json.get members "manifest")
          if (Json.get manifest "capabilities").truthy then
            match agentId.pairKey with
            | .ok key => (recordFromManifest agentId key manifest reading).toOption
            | .error _ => none
          else none
      | _ => none

end Ans

/-! ## What a request adds -/

namespace Presence

open PresenceStore

variable {store : PresenceStore} {added : PresenceRecord → Prop}

omit [TextCase] [TextOf] [NumberText] [MethodCatalog] in
theorem grows_answerCounted (now : ℚ) (payload : List (String × Json)) :
    store.Grows (answerCounted store now payload).2 added := by
  unfold answerCounted counted
  cases done : store.sweep now with
  | error raised => exact .refl store added
  | ok swept => exact grows_sweep done added

omit [TextCase] [TextOf] [NumberText] [MethodCatalog] in
theorem grows_announced (reading : Reading) (record : PresenceRecord) (verified : Bool) :
    store.Grows (announced reading record verified store).2 (· = record) := by
  have stored : store.Grows (store.announce record).2 (· = record) := grows_put store record
  unfold announced
  rcases ended : store.announce record with ⟨outcome, after⟩
  rw [ended] at stored
  cases outcome with
  | error raised => exact stored
  | ok done => exact stored.trans (grows_answerCounted _ _)

variable [BodyCodec]

omit [TextCase] [MethodCatalog] in
theorem grows_announceForeignRecord (registry : PresenceRegistry) (reading : Reading)
    (failureText : Raised → String) {request : Request} {params raw : List (String × Json)}
    (read : mergedParams request = .ok params)
    (given : Json.get params "record" = .object raw) :
    store.Grows (announceForeignRecord registry reading failureText (.object raw) store).2
      (declaredByAnnounce registry reading request = some ·) := by
  unfold announceForeignRecord
  cases parsed : PresenceRecord.fromGossipDict reading.text (.object raw) with
  | error raised =>
      dsimp only
      split <;> exact .refl store _
  | ok record =>
      dsimp only
      split
      · exact .refl store _
      · next verified =>
          split
          · exact .refl store _
          · next bound =>
              apply (grows_announced reading record true).mono
              rintro _ rfl
              unfold declaredByAnnounce
              rw [read]
              simp only [given, parsed, Except.toOption]
              simp only [Bool.not_eq_true', Bool.not_eq_false] at verified bound
              exact Option.filter_some_pos (by rw [verified, bound]; rfl)

omit [BodyCodec] in
theorem grows_announceHosted (registry : PresenceRegistry) (reading : Reading)
    (request : Request) (params : List (String × Json)) {agentId : String}
    {document : DocumentFields} (hosted : registry.hosted agentId = some document) :
    store.Grows (announceHosted registry reading request params document store).2
      registry.Sound := by
  unfold announceHosted
  dsimp only
  split
  · next stop _ => cases stop <;> exact .refl store _
  · next ttl _ =>
      split
      · exact .refl store _
      · next built ended =>
          apply (grows_announced reading _ false).mono
          rintro _ rfl
          exact sound_of_buildRecord hosted ended

theorem grows_handleAnnounce (registry : PresenceRegistry) (reading : Reading)
    (failureText : Raised → String) (request : Request) :
    store.Grows (handleAnnounce registry reading failureText request store).2 fun record =>
      declaredByAnnounce registry reading request = some record ∨
        registry.Sound record := by
  unfold handleAnnounce
  split
  · exact .refl store _
  · next params read =>
      split
      · next raw given =>
          exact (grows_announceForeignRecord registry reading failureText read given).mono
            fun _ => .inl
      · dsimp only
        split
        · exact .refl store _
        · split
          · exact .refl store _
          · next document hosted =>
              exact (grows_announceHosted registry reading request params hosted).mono
                fun _ => .inr

omit [TextOf] [NumberText] [MethodCatalog] in
theorem grows_handleWithdraw (now : ℚ) (request : Request) :
    store.Grows (handleWithdraw now request store).2 added := by
  unfold handleWithdraw
  split
  · exact .refl store _
  · dsimp only
    split
    · exact .refl store _
    · exact Grows.trans (fun _ _ held => .inl (held_of_remove held))
        (grows_answerCounted _ _)

omit [TextCase] [MethodCatalog] in
theorem grows_handleReplicate (registry : PresenceRegistry) (moment : Gossip.Moment)
    (request : Request) :
    store.Grows (handleReplicate registry moment request store).2
      (· ∈ declaredByReplicate registry moment request) := by
  unfold handleReplicate
  cases read : parsedBody request with
  | error failure => cases failure <;> exact .refl store _
  | ok body =>
      have merged : store.Grows
          (Gossip.applyReplicate (accepts registry) moment body store).2
          (· ∈ declaredByReplicate registry moment request) := by
        intro agentId record held
        refine (Gossip.source_of_applyReplicate held).imp_right fun taken => ?_
        unfold declaredByReplicate
        rw [read]
        exact taken.2
      dsimp only
      split <;> next ended => rwa [ended] at merged

variable [CallDepth]

theorem grows_handleProbe (registry : PresenceRegistry) (now : ℚ) (request : Request) :
    store.Grows (handleProbe registry now request store).2 added := by
  have found (agentId : String) : store.Grows (store.probe agentId now).2 added :=
    fun _ _ held => .inl (held_of_probe held)
  unfold handleProbe
  split
  · exact .refl store _
  · next params _ =>
      dsimp only
      split
      · exact .refl store _
      · specialize found (subjectAgentId request params)
        split
        · next ended => rwa [ended] at found
        · next ended =>
            rw [ended] at found
            split
            · exact found
            · unfold probed refuse answer
              repeat' split
              all_goals exact found

theorem grows_handlePopulation (registry : PresenceRegistry) (now : ℚ)
    (request : Request) :
    store.Grows (handlePopulation registry now request store).2 added := by
  unfold handlePopulation
  repeat' split
  all_goals first
    | exact .refl store _
    | exact grows_sweep ‹_› added
    | (next stop _ => cases stop <;> exact .refl store _)

end Presence

namespace Ans

open PresenceStore

variable [BodyCodec] {names : NameStore} {presence : PresenceStore}
  {added : PresenceRecord → Prop}

omit [Floats] [NumberText] [MethodCatalog] in
theorem grows_handleDeregister (request : Request) :
    presence.Grows (handleDeregister request names presence).presence added := by
  unfold handleDeregister
  dsimp only
  repeat' split
  all_goals first
    | exact .refl presence _
    | exact fun _ _ held => .inl (held_of_remove held)

omit [Floats] [NumberText] [BodyCodec] in
theorem grows_registered (reading : Reading) (agentId : Json) (name : String)
    (manifest : List (String × Json)) :
    presence.Grows (registered reading agentId name manifest names presence).presence
      fun record => ∃ key, agentId.pairKey = .ok key ∧
        recordFromManifest agentId key manifest reading = .ok record := by
  unfold registered
  split
  · exact .refl presence _
  · split
    · exact .refl presence _
    · next key keyed =>
        split
        · exact .refl presence _
        · next record built =>
            have stored : presence.Grows (presence.announce record).2 fun record =>
                ∃ key, agentId.pairKey = .ok key ∧
                  recordFromManifest agentId key manifest reading = .ok record := by
              apply (grows_put presence record).mono
              rintro _ rfl
              exact ⟨key, keyed, built⟩
            split <;> next ended => rwa [ended] at stored

omit [Floats] [NumberText] in
theorem grows_handleRegister (reading : Reading) (request : Request) :
    presence.Grows (handleRegister reading request names presence).presence fun record =>
      declaredByRegister reading request = some record ∨ record.Supported := by
  unfold handleRegister
  dsimp only
  split
  · exact .refl presence _
  · next members read =>
      split
      · exact .refl presence _
      · split
        · next name named =>
            split
            · exact .refl presence _
            · apply (grows_registered reading _ name _).mono
              rintro record ⟨key, keyed, built⟩
              by_cases declares : (Json.get (namedManifest name
                  (Json.get members "manifest")) "capabilities").truthy = true
              · left
                unfold declaredByRegister
                rw [read]
                simp only [named, declares, if_true, keyed, built]
                rfl
              · exact .inr (supported_of_recordFromManifest built
                  (Bool.eq_false_iff.mpr declares))
        · exact .refl presence _

end Ans

/-! ## Every run -/

/-- The two stores of a name service. -/
structure AnsState where
  names : NameStore
  presence : PresenceStore

/-- What a name service does: it announces an agent that it hosts when it starts, or it
serves a request. -/
inductive AnsEvent where
  | boot (agentId : String) (reading : Reading)
  | request (request : Request) (reading : Reading)

namespace Ans

open Presence PresenceStore

variable [BodyCodec] [CallDepth]

def bootAnnounce (registry : PresenceRegistry) (agentId : String) (reading : Reading)
    (store : PresenceStore) : PresenceStore :=
  match registry.hosted agentId with
  | none => store
  | some document =>
      match buildRecord document registry.relayEndpoint .standard defaultTtlSeconds
          reading with
      | .error _ => store
      | .ok record => (store.announce (signed registry record)).2

def presenceAfter (registry : PresenceRegistry) (failureText : Raised → String)
    (reading : Reading) (request : Request) (store : PresenceStore) : PresenceStore :=
  let method := upper request.method
  if method = "ANNOUNCE" then
    (handleAnnounce registry reading failureText request store).2
  else if method = "WITHDRAW" then (handleWithdraw reading.now request store).2
  else if method = "PROBE" then (handleProbe registry reading.now request store).2
  else if method = "DISCOVER" ∧ lower request.path = "/population" then
    (handlePopulation registry reading.now request store).2
  else if method = "REPLICATE" then
    (handleReplicate registry reading.toMoment request store).2
  else store

/-- The state after an event, whether the request is answered or raises. -/
def after (registry : PresenceRegistry) (failureText : Raised → String) (state : AnsState) :
    AnsEvent → AnsState
  | .boot agentId reading =>
      { state with presence := bootAnnounce registry agentId reading state.presence }
  | .request request reading =>
      if upper request.method = "REGISTER" then
        let handled := handleRegister reading request state.names state.presence
        ⟨handled.names, handled.presence⟩
      else if upper request.method = "DEREGISTER" then
        let handled := handleDeregister request state.names state.presence
        ⟨handled.names, handled.presence⟩
      else
        { state with
          presence := presenceAfter registry failureText reading request state.presence }

def afterAll (registry : PresenceRegistry) (failureText : Raised → String)
    (state : AnsState) (events : List AnsEvent) : AnsState :=
  events.foldl (after registry failureText) state

def declared (registry : PresenceRegistry) (reading : Reading) (request : Request) :
    List PresenceRecord :=
  let method := upper request.method
  if method = "ANNOUNCE" then (declaredByAnnounce registry reading request).toList
  else if method = "REPLICATE" then
    declaredByReplicate registry reading.toMoment request
  else if method = "REGISTER" then (declaredByRegister reading request).toList
  else []

def Honest (registry : PresenceRegistry) : AnsEvent → Prop
  | .boot _ _ => True
  | .request request reading =>
      ∀ record ∈ declared registry reading request, record.Supported

theorem grows_presenceAfter (registry : PresenceRegistry) (failureText : Raised → String)
    (reading : Reading) {request : Request} (store : PresenceStore)
    (honest : Honest registry (.request request reading)) :
    store.Grows (presenceAfter registry failureText reading request store)
      registry.Sound := by
  unfold presenceAfter
  dsimp only
  split
  · next method =>
      apply (grows_handleAnnounce registry reading failureText request).mono
      rintro record (taken | sound)
      · refine .inl (honest record ?_)
        simp [declared, method, taken]
      · exact sound
  · split
    · exact grows_handleWithdraw reading.now request
    · split
      · exact grows_handleProbe registry reading.now request
      · split
        · exact grows_handlePopulation registry reading.now request
        · split
          · next notAnnounce _ _ _ method =>
              apply (grows_handleReplicate registry reading.toMoment request).mono
              intro record taken
              refine .inl (honest record ?_)
              simpa [declared, method] using taken
          · exact .refl store _

theorem grows_after (registry : PresenceRegistry) (failureText : Raised → String)
    (state : AnsState) {event : AnsEvent} (honest : Honest registry event) :
    state.presence.Grows (after registry failureText state event).presence
      registry.Sound := by
  cases event with
  | boot agentId reading =>
      change state.presence.Grows (bootAnnounce registry agentId reading state.presence) _
      unfold bootAnnounce
      split
      · exact .refl _ _
      · next document hosted =>
          split
          · exact .refl _ _
          · next built ended =>
              apply (grows_put state.presence (signed registry built)).mono
              rintro _ rfl
              exact sound_of_buildRecord hosted ended
  | request request reading =>
      unfold after
      dsimp only
      split
      · next method =>
          apply (grows_handleRegister reading request).mono
          rintro record (taken | supported)
          · refine .inl (honest record ?_)
            simp [declared, method, taken]
          · exact .inl supported
      · split
        · exact grows_handleDeregister request
        · exact grows_presenceAfter registry failureText reading state.presence honest

def AllSound (registry : PresenceRegistry) (store : PresenceStore) : Prop :=
  ∀ agentId record, store.records.get? agentId = some record → registry.Sound record

theorem allSound_afterAll (registry : PresenceRegistry) (failureText : Raised → String)
    {events : List AnsEvent} {state : AnsState}
    (honest : ∀ event ∈ events, Honest registry event)
    (sound : AllSound registry state.presence) :
    AllSound registry (afterAll registry failureText state events).presence := by
  induction events generalizing state with
  | nil => exact sound
  | cons event rest induction =>
      apply induction fun other listed => honest other (List.mem_cons_of_mem _ listed)
      intro agentId record held
      have grows := grows_after registry failureText state
        (honest event List.mem_cons_self)
      exact (grows agentId record held).elim (sound agentId record) id

/-! ## What a query finds -/

omit [TextOf] [MethodCatalog] [BodyCodec] in
def matched (query : Query) (requester : RequesterContext) (swept : PresenceStore) :
    Except Raised (List Scored) :=
  match Fallible.filter (admits query requester) (queryPopulation query swept) with
  | .error raised => .error raised
  | .ok filtered => Ranking.rankRecords query.capability query.intent filtered

structure WellFound (registry : PresenceRegistry) (query : Query)
    (record : PresenceRecord) : Prop where
  found : ∀ capability, query.capability = some capability →
    registry.Justifies record (lower (Text.strip capability))
  scored : ∀ token ∈ Ranking.intentTokens query.intent, ∀ claims,
    record.claims = .ok claims → Ranking.claimsToken claims token = true →
      registry.Justifies record token

def PoisonFree (registry : PresenceRegistry) (store : PresenceStore) : Prop :=
  ∀ now swept, store.sweep now = .ok swept →
    ∀ query requester ranked, matched query requester swept = .ok ranked →
      ∀ scored ∈ ranked, WellFound registry query scored.record

omit [Floats] [TextCase] [TextOf] [NumberText] [MethodCatalog] [BodyCodec] [CallDepth] in
theorem listed_of_claimsToken {record : PresenceRecord} {claims : List Json}
    {token : String} (claimed : record.claims = .ok claims)
    (matches' : Ranking.claimsToken claims token = true) :
    record.capabilities = .ok claims ∧ .string token ∈ claims := by
  unfold PresenceRecord.claims at claimed
  split at claimed
  · next items read =>
      split at claimed
      · cases claimed
        rcases List.any_eq_true.mp matches' with ⟨claim, listed, same⟩
        refine ⟨read, ?_⟩
        cases claim <;> simp at same
        exact same ▸ listed
      · cases claimed
  · cases claimed

omit [TextOf] [MethodCatalog] [BodyCodec] in
theorem found_of_matched {query : Query} {requester : RequesterContext}
    {swept : PresenceStore} {ranked : List Scored}
    (ended : matched query requester swept = .ok ranked) {scored : Scored}
    (member : scored ∈ ranked) :
    swept.records.get? scored.record.agentId = some scored.record ∧
      ∀ capability, query.capability = some capability →
        lower (Text.strip capability) ∈ scored.record.indexedUnder := by
  unfold matched at ended
  split at ended
  · cases ended
  · next filtered passed =>
      rcases Ranking.mem_of_rankRecords ended member with ⟨record, kept, scores⟩
      have same : scored.record = record := by
        unfold Ranking.scoreRecord at scores
        split at scores
        · cases scores
        · cases beh : Ranking.behavioralTrust
              (Json.get record.resultEntry "behavioral_trust_score") with
          | error raised =>
              rw [beh] at scores
              cases scores
          | ok behavioral =>
              rw [beh] at scores
              cases scores
              rfl
      rw [Fallible.eq_of_filter passed] at kept
      have candidate := (List.mem_filter.mp
        (List.mem_mergeSort.mp (List.mem_filter.mp kept).1)).1
      unfold candidates at candidate
      rw [same]
      cases asked : query.capability with
      | none =>
          rw [asked] at candidate
          exact ⟨held_of_mem_values candidate, nofun⟩
      | some capability =>
          rw [asked] at candidate
          rcases List.mem_filter.mp candidate with ⟨stored, indexed⟩
          have held := held_of_mem_values stored
          refine ⟨held, ?_⟩
          rintro _ ⟨⟩
          rcases (swept.indexed _ _).mp (of_decide_eq_true indexed) with
            ⟨other, found, under⟩
          rw [held] at found
          cases found
          exact under

omit [BodyCodec] in
theorem poisonFree_of_allSound {registry : PresenceRegistry} {store : PresenceStore}
    (sound : AllSound registry store) : PoisonFree registry store := by
  intro now swept done query requester ranked ended scored member
  rcases found_of_matched ended member with ⟨held, indexed⟩
  have justified := sound _ _ (held_of_sweep done held)
  constructor
  · intro capability asked
    rcases PresenceRecord.listed_of_indexedUnder (indexed capability asked) with ⟨items, read, listed⟩
    exact justified.justifies read listed
  · intro token _ claims claimed hit
    rcases listed_of_claimsToken claimed hit with ⟨read, listed⟩
    exact justified.justifies read listed

/-- As long as what is declared is backed, no order of requests poisons the index. -/
theorem index_poison_free (registry : PresenceRegistry) (failureText : Raised → String)
    (names : NameStore) {events : List AnsEvent}
    (honest : ∀ event ∈ events, Honest registry event) :
    PoisonFree registry
      (afterAll registry failureText ⟨names, .empty⟩ events).presence :=
  poisonFree_of_allSound (allSound_afterAll registry failureText honest
    fun _ _ held => nomatch held)

end Ans

end Integrity

namespace PoisonSamples

open Ans
open scoped Plain PlainServing

scoped instance : MethodCatalog where
  methods := [("DESCRIBE", ["mechanics", "discovery"]), ("PURCHASE", ["transaction"])]

scoped instance : CallDepth := ⟨100⟩

def manifestOf (capabilities : List (String × Json)) : Json :=
  .object ([("supported_methods", .array [.string "DESCRIBE"])] ++ capabilities)

def bodyOf (capabilities : List (String × Json)) : Json :=
  .object [("agent_id", .string "scout"), ("name", .string "scout"),
    ("manifest", manifestOf capabilities)]

/-- The body `[1]` declares a capability; the others declare none. -/
scoped instance : BodyCodec where
  dumps := fun _ => []
  loads := fun body =>
    if body = [1] then
      .ok (bodyOf [("capabilities", .array [.string "purchase"])])
    else .ok (bodyOf [])
  failureText := fun _ => ""
  loadsStrict := fun _ => none

def registry : PresenceRegistry where
  hosted := fun _ => none
  relayEndpoint := none
  requireDiscoveryScope := false
  verifySignatures := false
  envelopeOf := fun _ => none
  verifyRecord := fun _ => false
  boundToGenesis := fun _ => true
  signRecord := fun _ => none
  signResults := fun _ => none

def reading : Reading := ⟨⟨100, "t"⟩, "90.0"⟩

def registering (body : Bytes) : AnsEvent :=
  .request { Request.toRoot "REGISTER" [] with body := body } reading

def registeredBy (body : Bytes) : AnsState :=
  afterAll registry (fun _ => "") ⟨⟨.empty, .empty⟩, .empty⟩ [registering body]

def purchases : Presence.Query :=
  ⟨some "purchase", none, .null, none, none, none, none, none, false, none⟩

def firstBacked (store : PresenceStore) : Option Bool :=
  match store.sweep 100 with
  | .error _ => none
  | .ok swept =>
      match matched purchases .anonymous swept with
      | .ok (scored :: _) =>
          match Scopes.deriveCapabilitiesFromMethods
              (Json.get scored.record.resultEntry "supported_methods") false with
          | .ok tokens => some (tokens.contains "purchase")
          | .error _ => none
      | _ => none

/-- An agent that is registered with the capabilities of its methods is not found under
others. -/
theorem derived_registration_poison_free :
    PoisonFree registry (registeredBy [2]).presence := by
  have undeclared : (declared registry reading
      { Request.toRoot "REGISTER" [] with body := [2] }).isEmpty = true := by
    decide +kernel
  apply index_poison_free
  intro event listed
  rcases List.mem_singleton.mp listed with rfl
  intro record taken
  rw [List.isEmpty_iff.mp undeclared] at taken
  cases taken

/-- An agent that can only describe itself registers for purchases, and is found. -/
theorem self_declared_capability_found :
    firstBacked (registeredBy [1]).presence = some false ∧
      ¬PoisonFree registry (registeredBy [1]).presence := by
  have shown : firstBacked (registeredBy [1]).presence = some false := by
    decide +kernel
  refine ⟨shown, fun free => ?_⟩
  unfold firstBacked at shown
  split at shown
  · cases shown
  · next swept done =>
      split at shown
      · next scored rest ended =>
          have justified := (free 100 swept done purchases .anonymous _ ended scored
            List.mem_cons_self).found "purchase" rfl
          have token : lower (Text.strip "purchase") = "purchase" := by
            decide +kernel
          rw [token] at justified
          rcases justified with ⟨tokens, derived, member⟩ | ⟨agentId, document, _, _, _, _,
            hosted, _⟩
          · rw [derived] at shown
            simp [member] at shown
          · cases hosted
      · cases shown

end PoisonSamples

end Agtp
