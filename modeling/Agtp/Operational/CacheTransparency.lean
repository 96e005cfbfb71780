import Agtp.Operational.InMemoryCache
import Agtp.Server.HookRegistry

/-! # What the cache answers

Every response that the cache gives was computed for an earlier request under the same key. -/

/-! ## The cache hook

`mod_cache` answers a request from the cache, and stores what a request was
answered with. The key tells the method, the path and the input of a request, but
not its agent. -/

namespace Agtp

def utf8 (text : String) : Bytes := text.toUTF8.toList

/-- A digest is printed in 64 digits. -/
class HexDigest [Digest] : Prop where
  length_sha256 : ∀ data, (Digest.sha256 data).toList.length = 64

namespace CacheHook

section Keys

variable [JsonCodec] [Digest]

def isCacheable (spec : SemanticSpec) : Bool :=
  match spec.semantic with
  | none => false
  | some semantic =>
      semantic.impact = "informational" ||
        semantic.impact = "reversible" && semantic.isIdempotent

def canonicalInput (context : EndpointContext) : Bytes :=
  JsonCodec.canonical (.object context.input)

def digestPrefix (context : EndpointContext) : String :=
  String.ofList ((Digest.sha256 (utf8 context.method ++ [0] ++ utf8 context.path ++ [0] ++
    canonicalInput context)).toList.take 16)

def cacheKey (context : EndpointContext) : String :=
  context.method ++ " " ++ context.path ++ " " ++ digestPrefix context

variable {context other : EndpointContext}

omit [JsonCodec] [Digest] in
theorem takeWhile_word {word : List Char} (unspaced : ' ' ∉ word) (rest : List Char) :
    (word ++ ' ' :: rest).takeWhile (· ≠ ' ') = word := by
  rw [List.takeWhile_append_of_pos]
  · simp
  · intro character member
    have different : character ≠ ' ' := fun same => unspaced (same ▸ member)
    simpa using different

theorem pair_of_cacheKey [HexDigest] (unspaced : ' ' ∉ context.method.toList)
    (otherUnspaced : ' ' ∉ other.method.toList)
    (same : cacheKey context = cacheKey other) :
    context.method = other.method ∧ context.path = other.path := by
  have texts := congrArg String.toList same
  simp only [cacheKey, String.toList_append] at texts
  have lengths : (digestPrefix context).toList.length =
      (digestPrefix other).toList.length := by
    simp [digestPrefix, HexDigest.length_sha256]
  have blanks := (List.append_inj' texts lengths).1
  have pairs : context.method.toList ++ ' ' :: context.path.toList =
      other.method.toList ++ ' ' :: other.path.toList := by
    simpa using (List.append_inj' blanks rfl).1
  have methods : context.method.toList = other.method.toList := by
    have words := congrArg (List.takeWhile (· ≠ ' ')) pairs
    rwa [takeWhile_word unspaced, takeWhile_word otherUnspaced] at words
  rw [methods, List.append_cancel_left_eq, List.cons.injEq] at pairs
  exact ⟨String.toList_inj.mp methods, String.toList_inj.mp pairs.2⟩

end Keys

/-! ## The hook -/

variable [JsonCodec] [Digest] {Time : Type} [LinearOrder Time] [Add Time]

def beforeDispatch (now : Time) (spec : SemanticSpec) (context : EndpointContext)
    (cache : InMemoryCache EndpointResponse Time) :
    BeforeOutcome × InMemoryCache EndpointResponse Time :=
  if isCacheable spec then
    match cache.get now (cacheKey context) with
    | (some hit, after) => (.answered (.response hit), after)
    | (none, after) => (.passed, after)
  else (.passed, cache)

def afterDispatch (now : Time) (spec : SemanticSpec) (context : EndpointContext)
    (result : EndpointResult) (cache : InMemoryCache EndpointResponse Time) :
    AfterOutcome × InMemoryCache EndpointResponse Time :=
  match isCacheable spec, result with
  | true, .response response =>
      if 200 ≤ response.status ∧ response.status < 300 then
        match cache.set now (cacheKey context) response with
        | (.ok (), after) => (.returned, after)
        | (.error (), after) => (.raised, after)
      else (.returned, cache)
  | _, _ => (.returned, cache)

/-! ## Among other hooks -/

structure CacheWorld (World Time : Type) where
  cache : InMemoryCache EndpointResponse Time
  others : World

variable {World : Type}

def hook (lookedUp stored : Time) : DispatchHook (CacheWorld World Time) where
  before := fun spec context world =>
    let (outcome, cache) := beforeDispatch lookedUp spec context world.cache
    (outcome, { world with cache := cache })
  after := fun spec context result world =>
    let (outcome, cache) := afterDispatch stored spec context result world.cache
    (outcome, { world with cache := cache })

omit [LinearOrder Time] [Add Time] [JsonCodec] [Digest] in
def beside (other : DispatchHook World) : DispatchHook (CacheWorld World Time) where
  before := fun spec context world =>
    let (outcome, others) := other.before spec context world.others
    (outcome, { world with others := others })
  after := fun spec context result world =>
    let (outcome, others) := other.after spec context result world.others
    (outcome, { world with others := others })

/-- The hooks registered before and after the cache's. -/
structure Neighbours (World : Type) where
  before : List (DispatchHook World)
  after : List (DispatchHook World)

def Neighbours.all (neighbours : Neighbours World) : List (DispatchHook World) :=
  neighbours.before ++ neighbours.after

def Neighbours.registry (neighbours : Neighbours World) (lookedUp stored : Time) :
    List (DispatchHook (CacheWorld World Time)) :=
  neighbours.before.map beside ++ hook lookedUp stored :: neighbours.after.map beside

end CacheHook

end Agtp

namespace Agtp.CacheHook

variable [JsonCodec] [Digest] {World Time : Type} [LinearOrder Time] [Add Time]

/-! ## Requests and histories -/

/-- A request that an endpoint serves, with the times at which the cache reads the
clock. The request line is split at blanks, so no method holds one. -/
structure Visit (World Time : Type) where
  spec : SemanticSpec
  context : EndpointContext
  handler : ServingHandler World
  lookedUp : Time
  stored : Time
  unspaced : ' ' ∉ context.method.toList

omit [JsonCodec] [Digest] [LinearOrder Time] [Add Time] in
def Visit.besideHandler (visit : Visit World Time) :
    ServingHandler (CacheWorld World Time) := fun context world =>
  ((visit.handler context world.others).1,
    { world with others := (visit.handler context world.others).2 })

def Visit.serve (neighbours : Neighbours World) (visit : Visit World Time)
    (world : CacheWorld World Time) : Handling × CacheWorld World Time :=
  serveWithHooks (neighbours.registry visit.lookedUp visit.stored) visit.besideHandler
    visit.spec visit.context world

omit [JsonCodec] [Digest] [LinearOrder Time] [Add Time] in
/-- The world in which the cache is asked, if the hooks before it let the request
through. -/
def Visit.reached (neighbours : Neighbours World) (visit : Visit World Time)
    (world : CacheWorld World Time) : Option World :=
  match HookRegistry.runBefore visit.spec visit.context neighbours.before world.others with
  | (.ok none, after) => some after
  | _ => none

def Visit.hit (neighbours : Neighbours World) (visit : Visit World Time)
    (world : CacheWorld World Time) : Option EndpointResponse :=
  if (visit.reached neighbours world).isSome ∧ isCacheable visit.spec then
    (world.cache.get visit.lookedUp (cacheKey visit.context)).1
  else none

/-- A request that was served, with the world that it was served in. -/
structure Visited (World Time : Type) where
  visit : Visit World Time
  world : CacheWorld World Time

/-- The response was computed for this request, by its handler or by another
hook. -/
def Visited.Computed (neighbours : Neighbours World) (visited : Visited World Time)
    (response : EndpointResponse) : Prop :=
  visited.visit.hit neighbours visited.world = none ∧
    (handling (neighbours.registry visited.visit.lookedUp visited.visit.stored)
      visited.visit.besideHandler visited.visit.spec visited.visit.context
      visited.world).1 = .answered (.response response)

/-- The requests served so far, the last one first, and the cache that they left.
Between them, everything but the cache may change. -/
inductive History (neighbours : Neighbours World) (maxEntries : Int) (defaultTtl : Time) :
    List (Visited World Time) → InMemoryCache EndpointResponse Time → Prop where
  | start : History neighbours maxEntries defaultTtl [] (.new maxEntries defaultTtl)
  | visit {past : List (Visited World Time)}
      {cache : InMemoryCache EndpointResponse Time}
      (history : History neighbours maxEntries defaultTtl past cache)
      (visit : Visit World Time) (others : World) :
      History neighbours maxEntries defaultTtl (⟨visit, ⟨cache, others⟩⟩ :: past)
        (visit.serve neighbours ⟨cache, others⟩).2.cache

/-! ## Transparency -/

/-- A response from the cache is as a response to the request itself has to be: all
hooks let the request through, the response was computed for the same method, path
and input, and no extra of an earlier request is recorded with it. -/
structure Transparent [SchemaValidator] (neighbours : Neighbours World)
    (past : List (Visited World Time)) (world : CacheWorld World Time)
    (visit : Visit World Time) (response : EndpointResponse) : Prop where
  gated : (HookRegistry.runBefore visit.spec visit.context neighbours.all
    world.others).1 = .ok none
  same : ∃ earlier ∈ past, earlier.Computed neighbours response ∧
    earlier.visit.context.method = visit.context.method ∧
    earlier.visit.context.path = visit.context.path ∧
    canonicalInput earlier.visit.context = canonicalInput visit.context
  unattributed : recordedExtra visit.spec (.response response) = none

/-! ## Hooks beside the cache -/

section Beside

variable {spec : SemanticSpec} {context : EndpointContext}

omit [JsonCodec] [Digest] [LinearOrder Time] [Add Time] in
theorem runBefore_beside (hooks : List (DispatchHook World))
    (world : CacheWorld World Time) :
    HookRegistry.runBefore spec context (hooks.map beside) world =
      ((HookRegistry.runBefore spec context hooks world.others).1,
        { world with
          others := (HookRegistry.runBefore spec context hooks world.others).2 }) := by
  induction hooks generalizing world with
  | nil => rfl
  | cons head rest induction =>
      rcases ended : head.before spec context world.others with ⟨outcome, after⟩
      simp only [List.map_cons, HookRegistry.runBefore, beside, ended]
      cases outcome with
      | passed => exact induction _
      | answered result => rfl
      | raised => exact induction _
      | aborted => rfl

omit [JsonCodec] [Digest] [LinearOrder Time] [Add Time] in
theorem runAfter_beside (result : EndpointResult) (hooks : List (DispatchHook World))
    (world : CacheWorld World Time) :
    HookRegistry.runAfter spec context result (hooks.map beside) world =
      ((HookRegistry.runAfter spec context result hooks world.others).1,
        { world with
          others := (HookRegistry.runAfter spec context result hooks world.others).2 }) := by
  induction hooks generalizing world with
  | nil => rfl
  | cons head rest induction =>
      rcases ended : head.after spec context result world.others with ⟨outcome, after⟩
      simp only [List.map_cons, HookRegistry.runAfter, beside, ended]
      cases outcome with
      | returned => exact induction _
      | raised => exact induction _
      | aborted => rfl

end Beside

/-! ## One request -/

section Requests

variable {neighbours : Neighbours World} {visit : Visit World Time}
  {world : CacheWorld World Time} {response : EndpointResponse} {key : String}
  {entry : CacheEntry EndpointResponse Time}

omit [JsonCodec] [Digest] [LinearOrder Time] [Add Time] in
theorem reached_iff {after : World} : visit.reached neighbours world = some after ↔
    HookRegistry.runBefore visit.spec visit.context neighbours.before world.others =
      (.ok none, after) := by
  unfold Visit.reached
  split
  · next passed => simp [passed]
  · next stopped =>
      constructor
      · exact nofun
      · intro passed
        exact (stopped _ passed).elim

def lookUp (visit : Visit World Time) (cache : InMemoryCache EndpointResponse Time) :
    Option EndpointResponse × InMemoryCache EndpointResponse Time :=
  if isCacheable visit.spec then cache.get visit.lookedUp (cacheKey visit.context)
  else (none, cache)

theorem runBefore_hook (rest : List (DispatchHook World)) :
    HookRegistry.runBefore visit.spec visit.context
        (hook visit.lookedUp visit.stored :: rest.map beside) world =
      match lookUp visit world.cache with
      | (some response, cache) => (.ok (some (.response response)), ⟨cache, world.others⟩)
      | (none, cache) =>
          ((HookRegistry.runBefore visit.spec visit.context rest world.others).1,
            ⟨cache, (HookRegistry.runBefore visit.spec visit.context rest
              world.others).2⟩) := by
  unfold lookUp
  simp only [HookRegistry.runBefore, hook, beforeDispatch]
  cases isCacheable visit.spec with
  | false => exact runBefore_beside rest _
  | true =>
      rcases world.cache.get visit.lookedUp (cacheKey visit.context) with ⟨found, cache⟩
      cases found with
      | some response => rfl
      | none => exact runBefore_beside rest _

omit [Add Time] in
theorem hit_eq_lookUp {after : World} (reached : visit.reached neighbours world = some after) :
    visit.hit neighbours world = (lookUp visit world.cache).1 := by
  unfold Visit.hit lookUp
  rw [reached]
  cases isCacheable visit.spec <;> rfl

omit [Add Time] in
theorem hit_eq_none (unreached : visit.reached neighbours world = none) :
    visit.hit neighbours world = none := by
  unfold Visit.hit
  rw [unreached]
  rfl

omit [JsonCodec] [Digest] [LinearOrder Time] [Add Time] in
theorem stopped_of_unreached (unreached : visit.reached neighbours world = none) :
    ∀ after, HookRegistry.runBefore visit.spec visit.context neighbours.before
      world.others ≠ (.ok none, after) := by
  intro after passed
  rw [reached_iff.mpr passed] at unreached
  cases unreached

theorem runBefore_registry (neighbours : Neighbours World) (visit : Visit World Time)
    (world : CacheWorld World Time) :
    (HookRegistry.runBefore visit.spec visit.context
        (neighbours.registry visit.lookedUp visit.stored) world).1 =
      match visit.hit neighbours world with
      | some response => .ok (some (.response response))
      | none =>
          (HookRegistry.runBefore visit.spec visit.context neighbours.all world.others).1 := by
  unfold Neighbours.registry Neighbours.all
  rw [HookRegistry.runBefore_append, runBefore_beside, HookRegistry.runBefore_append]
  cases reached : visit.reached neighbours world with
  | none =>
      have stopped := stopped_of_unreached reached
      rw [hit_eq_none reached]
      rcases ended : HookRegistry.runBefore visit.spec visit.context neighbours.before
        world.others with ⟨_ | _ | result, after⟩
      · rfl
      · exact absurd ended (stopped after)
      · rfl
  | some after =>
      rw [hit_eq_lookUp reached, reached_iff.mp reached]
      simp only [runBefore_hook]
      rcases lookUp visit world.cache with ⟨found, cache⟩
      cases found <;> rfl

omit [Add Time] in
theorem get?_of_lookUp {cache : InMemoryCache EndpointResponse Time}
    (held : (lookUp visit cache).2.entries.get? key = some entry) :
    cache.entries.get? key = some entry := by
  unfold lookUp at held
  split at held
  · exact InMemoryCache.get?_of_get held
  · exact held

theorem get?_of_runBefore (held : (HookRegistry.runBefore visit.spec visit.context
      (neighbours.registry visit.lookedUp visit.stored) world).2.cache.entries.get? key =
        some entry) :
    world.cache.entries.get? key = some entry := by
  unfold Neighbours.registry at held
  rw [HookRegistry.runBefore_append, runBefore_beside] at held
  rcases ended : HookRegistry.runBefore visit.spec visit.context neighbours.before
    world.others with ⟨_ | _ | result, after⟩
  · rw [ended] at held
    exact held
  · rw [ended] at held
    simp only [runBefore_hook] at held
    rcases looked : lookUp visit world.cache with ⟨found, cache⟩
    rw [looked] at held
    have kept : (lookUp visit world.cache).2.entries.get? key = some entry := by
      rw [looked]
      cases found <;> exact held
    exact get?_of_lookUp kept
  · rw [ended] at held
    exact held

theorem handling_of_hit (hit : visit.hit neighbours world = some response) :
    (handling (neighbours.registry visit.lookedUp visit.stored) visit.besideHandler
      visit.spec visit.context world).1 = .answered (.response response) := by
  have answered := runBefore_registry neighbours visit world
  rw [hit] at answered
  unfold handling
  rcases ended : HookRegistry.runBefore visit.spec visit.context
    (neighbours.registry visit.lookedUp visit.stored) world with ⟨outcome, after⟩
  rw [ended] at answered
  cases answered
  rfl

theorem get?_of_handling (held : (handling (neighbours.registry visit.lookedUp
      visit.stored) visit.besideHandler visit.spec visit.context world).2.cache.entries.get?
        key = some entry) :
    world.cache.entries.get? key = some entry := by
  have before (kept : (HookRegistry.runBefore visit.spec visit.context
      (neighbours.registry visit.lookedUp visit.stored) world).2.cache.entries.get? key =
        some entry) := get?_of_runBefore kept
  unfold handling at held
  split at held
  · next ended => exact before (by rwa [ended])
  · next ended => exact before (by rwa [ended])
  · next ended =>
      apply before
      rw [ended]
      split at held
      · next answered =>
          simp only [Visit.besideHandler, Prod.mk.injEq] at answered
          rw [← answered.2] at held
          exact held
      · next raised =>
          simp only [Visit.besideHandler, Prod.mk.injEq] at raised
          rw [← raised.2] at held
          exact held

omit [LinearOrder Time] in
theorem get?_of_afterDispatch {result : EndpointResult}
    {cache : InMemoryCache EndpointResponse Time}
    (held : (afterDispatch visit.stored visit.spec visit.context result
      cache).2.entries.get? key = some entry) :
    cache.entries.get? key = some entry ∨
      key = cacheKey visit.context ∧ result = .response entry.value := by
  unfold afterDispatch at held
  split at held
  · next response _ =>
      split at held
      · have stored : (cache.set visit.stored (cacheKey visit.context)
            response).2.entries.get? key = some entry := by
          split at held <;> next ended => rwa [ended]
        rcases InMemoryCache.get?_of_set stored with kept | ⟨same, value⟩
        · exact .inl kept
        · exact .inr ⟨same, by rw [value]⟩
      · exact .inl held
  · exact .inl held

theorem get?_of_runAfter {result : EndpointResult}
    (held : (HookRegistry.runAfter visit.spec visit.context result
      (neighbours.registry visit.lookedUp visit.stored) world).2.cache.entries.get? key =
        some entry) :
    world.cache.entries.get? key = some entry ∨
      key = cacheKey visit.context ∧ result = .response entry.value := by
  unfold Neighbours.registry at held
  rw [HookRegistry.runAfter_append, runAfter_beside] at held
  rcases ended : HookRegistry.runAfter visit.spec visit.context result neighbours.before
    world.others with ⟨_ | _, after⟩
  · rw [ended] at held
    exact .inl held
  · rw [ended] at held
    simp only [HookRegistry.runAfter, hook] at held
    rcases stored : afterDispatch visit.stored visit.spec visit.context result world.cache
      with ⟨outcome, cache⟩
    rw [stored] at held
    have kept : (afterDispatch visit.stored visit.spec visit.context result
        world.cache).2.entries.get? key = some entry := by
      rw [stored]
      cases outcome with
      | returned =>
          simp only [runAfter_beside] at held
          exact held
      | raised =>
          simp only [runAfter_beside] at held
          exact held
      | aborted => exact held
    exact get?_of_afterDispatch kept

theorem get?_of_serve
    (held : (visit.serve neighbours world).2.cache.entries.get? key = some entry) :
    world.cache.entries.get? key = some entry ∨
      key = cacheKey visit.context ∧
        (handling (neighbours.registry visit.lookedUp visit.stored) visit.besideHandler
          visit.spec visit.context world).1 = .answered (.response entry.value) := by
  have handled (kept : (handling (neighbours.registry visit.lookedUp visit.stored)
      visit.besideHandler visit.spec visit.context world).2.cache.entries.get? key =
        some entry) := get?_of_handling kept
  unfold Visit.serve serveWithHooks at held
  split at held
  · next result after answered =>
      have ran : (HookRegistry.runAfter visit.spec visit.context result
          (neighbours.registry visit.lookedUp visit.stored) after).2.cache.entries.get? key =
            some entry := by
        split at held <;> next ended => rwa [ended]
      rcases get?_of_runAfter ran with kept | ⟨same, result⟩
      · exact .inl (handled (by rwa [answered]))
      · exact .inr ⟨same, by rw [answered, result]⟩
  · exact .inl (handled held)

end Requests

/-! ## Histories -/

theorem computed_of_held {neighbours : Neighbours World} {maxEntries : Int}
    {defaultTtl : Time} {past : List (Visited World Time)}
    {cache : InMemoryCache EndpointResponse Time}
    (history : History neighbours maxEntries defaultTtl past cache) {key : String}
    {entry : CacheEntry EndpointResponse Time}
    (held : cache.entries.get? key = some entry) :
    ∃ earlier ∈ past, cacheKey earlier.visit.context = key ∧
      earlier.Computed neighbours entry.value := by
  induction history generalizing key entry with
  | start => cases held
  | @visit past cache _ visit others induction =>
      have further {key : String} {entry : CacheEntry EndpointResponse Time}
          (held : cache.entries.get? key = some entry) :
          ∃ earlier ∈ ⟨visit, ⟨cache, others⟩⟩ :: past,
            cacheKey earlier.visit.context = key ∧
              earlier.Computed neighbours entry.value := by
        rcases induction held with ⟨earlier, member, facts⟩
        exact ⟨earlier, List.mem_cons_of_mem _ member, facts⟩
      rcases get?_of_serve held with kept | ⟨same, answered⟩
      · exact further kept
      · cases hit : visit.hit neighbours ⟨cache, others⟩ with
        | none => exact ⟨_, List.mem_cons_self, same.symm, hit, answered⟩
        | some response =>
            -- What the cache gave is stored again.
            rw [handling_of_hit hit] at answered
            cases answered
            have found : (cache.get visit.lookedUp (cacheKey visit.context)).1 =
                some entry.value := by
              unfold Visit.hit at hit
              split at hit
              · exact hit
              · cases hit
            rcases InMemoryCache.get?_of_hit found with ⟨first, held, value, _⟩
            rw [same, ← value]
            exact further held

theorem computed_of_hit {neighbours : Neighbours World} {maxEntries : Int}
    {defaultTtl : Time} {past : List (Visited World Time)}
    {cache : InMemoryCache EndpointResponse Time}
    (history : History neighbours maxEntries defaultTtl past cache)
    {visit : Visit World Time} {others : World} {response : EndpointResponse}
    (hit : visit.hit neighbours ⟨cache, others⟩ = some response) :
    ∃ earlier ∈ past, cacheKey earlier.visit.context = cacheKey visit.context ∧
      earlier.Computed neighbours response := by
  unfold Visit.hit at hit
  split at hit
  · rcases InMemoryCache.get?_of_hit hit with ⟨entry, held, rfl, _⟩
    exact computed_of_held history held
  · cases hit

/-! ## The law -/

/-- What the cache answers is transparent exactly if the hooks registered after the
cache's let the request through as well, and no extra is recorded with what was
stored. Requests of one key are taken to have one input. -/
theorem transparent_iff [HexDigest] [SchemaValidator] {neighbours : Neighbours World}
    {maxEntries : Int} {defaultTtl : Time} {past : List (Visited World Time)}
    {cache : InMemoryCache EndpointResponse Time}
    (history : History neighbours maxEntries defaultTtl past cache)
    {visit : Visit World Time} {others reached : World} {response : EndpointResponse}
    (passed : visit.reached neighbours ⟨cache, others⟩ = some reached)
    (hit : visit.hit neighbours ⟨cache, others⟩ = some response)
    (separate : ∀ earlier ∈ past,
      cacheKey earlier.visit.context = cacheKey visit.context →
        canonicalInput earlier.visit.context = canonicalInput visit.context) :
    Transparent neighbours past ⟨cache, others⟩ visit response ↔
      (HookRegistry.runBefore visit.spec visit.context neighbours.after reached).1 =
          .ok none ∧
        recordedExtra visit.spec (.response response) = none := by
  have before := reached_iff.mp passed
  have gates : (HookRegistry.runBefore visit.spec visit.context neighbours.all others).1 =
      .ok none ↔ (HookRegistry.runBefore visit.spec visit.context neighbours.after
        reached).1 = .ok none := by
    rw [Neighbours.all, HookRegistry.runBefore_append_none, before]
    exact and_iff_right rfl
  constructor
  · intro transparent
    exact ⟨gates.mp transparent.gated, transparent.unattributed⟩
  · rintro ⟨later, unattributed⟩
    rcases computed_of_hit history hit with ⟨earlier, member, key, computed⟩
    rcases pair_of_cacheKey earlier.visit.unspaced visit.unspaced key with ⟨method, path⟩
    exact ⟨gates.mpr later,
      ⟨earlier, member, computed, method, path, separate earlier member key⟩, unattributed⟩

end Agtp.CacheHook

namespace Agtp.CacheSamples

open CacheHook
open scoped Plain

scoped instance : JsonCodec where
  canonical
    | .object members => members.flatMap fun entry =>
        match entry.2 with
        | .string text => utf8 entry.1 ++ utf8 text
        | _ => []
    | _ => []
  loads := fun _ => .error .valueError

def hexDigit (number : Nat) : Char := "0123456789abcdef".toList.getD number '0'

scoped instance : Digest where
  sha256 data := String.ofList ((data.flatMap (fun byte =>
    [hexDigit (byte.toNat / 16), hexDigit (byte.toNat % 16)]) ++
      List.replicate 64 '0').take 64)

scoped instance : HexDigest where
  length_sha256 data := by simp [Digest.sha256]

def echo : SemanticSpec where
  name := "QUERY"
  path := "/echo"
  requiredScopes := []
  errors := []
  parameters := ["value"]
  semantic := some ⟨"informational", true⟩

def asking (agentId claimed : String) : EndpointContext where
  input := [("value", .string "x")]
  agentId := agentId
  principalId := ""
  agentScopes := ["read", "admin"]
  authorityScope := [claimed]
  sessionId := none
  taskId := none
  requestId := ""
  method := "QUERY"
  path := "/echo"
  headers := .empty
  agentVerified := true
  agentCertFingerprint := some "f1"
  agentCertExtensions := { CertExtensions.absent with authorityScopes := some ["read"] }

def visitOf (agentId claimed : String) (attributes : Bool) : CacheHook.Visit Unit Nat where
  spec := echo
  context := asking agentId claimed
  handler := fun context world =>
    (some (.response ⟨[("echo", .string "x")], 200, [],
      if attributes then some (Dict.ofList [("evaluated", .string context.agentId)])
      else none⟩), world)
  lookedUp := 0
  stored := 0
  unspaced := by
    have unspaced : ' ' ∉ "QUERY".toList := by decide
    exact unspaced

def certificateGate : DispatchHook Unit :=
  .gate fun context => (AgentCertHook.beforeDispatch context).map (.wire ·.toResponse)

def afterAlice (neighbours : Neighbours Unit) (attributes : Bool) :
    InMemoryCache EndpointResponse Nat :=
  ((visitOf "alice" "read" attributes).serve neighbours ⟨.new 1000 300, ()⟩).2.cache

def pastOfAlice (attributes : Bool) : List (Visited Unit Nat) :=
  [⟨visitOf "alice" "read" attributes, ⟨.new 1000 300, ()⟩⟩]

theorem history_afterAlice (neighbours : Neighbours Unit) (attributes : Bool) :
    History neighbours 1000 300 (pastOfAlice attributes)
      (afterAlice neighbours attributes) :=
  .visit .start (visitOf "alice" "read" attributes) ()

def evaluated (response : EndpointResponse) : Option String :=
  match (recordedExtra echo (.response response)).bind (·.get? "evaluated") with
  | some (.string agentId) => some agentId
  | _ => none

/-- Behind the gate, the cache answers bob as it answered alice. -/
theorem cache_behind_gate_transparent :
    ∃ response, (visitOf "bob" "read" false).hit ⟨[certificateGate], []⟩
        ⟨afterAlice ⟨[certificateGate], []⟩ false, ()⟩ = some response ∧
      Transparent ⟨[certificateGate], []⟩ (pastOfAlice false)
        ⟨afterAlice ⟨[certificateGate], []⟩ false, ()⟩ (visitOf "bob" "read" false)
        response := by
  have shown : ((visitOf "bob" "read" false).hit ⟨[certificateGate], []⟩
      ⟨afterAlice ⟨[certificateGate], []⟩ false, ()⟩).map (fun response =>
        (recordedExtra echo (.response response)).isNone) = some true := by
    decide +kernel
  rcases Option.map_eq_some_iff.mp shown with ⟨response, hit, unattributed⟩
  have reached : (visitOf "bob" "read" false).reached ⟨[certificateGate], []⟩
      ⟨afterAlice ⟨[certificateGate], []⟩ false, ()⟩ = some () := by
    decide +kernel
  refine ⟨response, hit, ?_⟩
  refine (transparent_iff (history_afterAlice _ false) reached hit ?_).mpr
    ⟨rfl, Option.isNone_iff_eq_none.mp unattributed⟩
  intro earlier member _
  rw [List.mem_singleton.mp member]
  rfl

/-- In front of the gate, it answers mallory, whom the gate refuses, and the record
of her request says that alice was evaluated. -/
theorem cache_before_gate_not_transparent :
    ∃ response, (visitOf "mallory" "admin" true).hit ⟨[], [certificateGate]⟩
        ⟨afterAlice ⟨[], [certificateGate]⟩ true, ()⟩ = some response ∧
      evaluated response = some "alice" ∧
      (AgentCertHook.beforeDispatch (asking "mallory" "admin")).isSome = true ∧
      ¬Transparent ⟨[], [certificateGate]⟩ (pastOfAlice true)
        ⟨afterAlice ⟨[], [certificateGate]⟩ true, ()⟩ (visitOf "mallory" "admin" true)
        response := by
  have shown : ((visitOf "mallory" "admin" true).hit ⟨[], [certificateGate]⟩
      ⟨afterAlice ⟨[], [certificateGate]⟩ true, ()⟩).map evaluated =
        some (some "alice") := by
    decide +kernel
  rcases Option.map_eq_some_iff.mp shown with ⟨response, hit, alice⟩
  have refused : (AgentCertHook.beforeDispatch (asking "mallory" "admin")).isSome =
      true := by
    decide +kernel
  refine ⟨response, hit, alice, refused, fun transparent => ?_⟩
  have passed : (HookRegistry.runBefore echo (asking "mallory" "admin") [certificateGate]
      ()).1 = .ok none := transparent.gated
  simp only [HookRegistry.runBefore, certificateGate, DispatchHook.gate] at passed
  cases refusal : AgentCertHook.beforeDispatch (asking "mallory" "admin") with
  | none =>
      rw [refusal] at refused
      cases refused
  | some response =>
      rw [refusal] at passed
      cases passed

end Agtp.CacheSamples
