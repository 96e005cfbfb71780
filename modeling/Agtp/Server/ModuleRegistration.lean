import Agtp.Presence.PartitionRuns
import Agtp.Server.ModuleClient
import Agtp.Server.RegisterFrames

/-! # How a module registers

The handshake of `mod_python`. What a module has bound it keeps for the next connection, where
the daemon may offer to resume. -/

namespace Agtp.Gateway

open scoped StandardJson

abbrev Handler := ModuleContext → HandlerRun

structure ModuleSession where
  moduleId : String
  moduleVersion : String
  runtime : String
  pid : Int
  registry : Dict (String × String) Handler
  bindings : Dict (String × String) Handler
  cachedBindings : Dict (String × String) Handler
  cachedManifestHash : String
  daemonCapabilities : List Json

structure Resolution where
  bindings : Dict (String × String) Handler
  resolved : List String
  errors : List Json

def registerAck (resolved : List String) : Frame :=
  [("type", .string "register_ack"), ("ok", .bool true), ("resolved", Status.texts resolved)]

def registerRefusal (errors : List Json) : Frame :=
  [("type", .string "register_ack"), ("ok", .bool false), ("errors", .array errors)]

namespace ModuleSession

variable [TextCase] [TextOf]

/-- `registry.register`, of a function that `endpoint` decorates. A pair that is taken
raises. -/
def register (method path : String) (handler : Handler) (session : ModuleSession) :
    Option ModuleSession :=
  if (session.registry.get? (upper method, path)).isSome then none
  else some { session with registry := session.registry.set (upper method, path) handler }

def hello (session : ModuleSession) : Frame := [
  ("type", .string "hello"),
  ("gateway_versions", Status.texts [gatewayVersion]),
  ("module", .object [
    ("id", .string session.moduleId),
    ("version", .string session.moduleVersion),
    ("runtime", .string session.runtime),
    ("pid", .int session.pid)]),
  ("capabilities", Status.texts ["registered_function", "sign_request", "outbound_call"])] ++
    if session.cachedManifestHash = "" then []
    else [("cached_manifest_hash", .string session.cachedManifestHash)]

def resolveEndpoint (registry : Dict (String × String) Handler) (resolution : Resolution) :
    Json → Except Raised Resolution
  | .object endpoint =>
      let method := upper (Json.textOr endpoint "method" "")
      let path := Json.textOr endpoint "path" "/"
      match registry.get? (upper method, path) with
      | none => .ok { resolution with errors := resolution.errors ++ [.object [
          ("endpoint", .string (method ++ " " ++ path)),
          ("reason", .string "handler_not_found"),
          ("detail", .string ("no @endpoint registration matches (" ++ method ++ ", " ++ path ++
            "); reference was " ++
            TextOf.quoted (Json.textOr endpoint "handler_reference" "")))]] }
      | some handler => .ok { resolution with
          bindings := resolution.bindings.set (method, path) handler
          resolved := resolution.resolved ++ [method ++ " " ++ path] }
  | _ => .error .attributeError

def handleRegister (frame : Frame) (session : ModuleSession) :
    Except Raised (ModuleSession × Bool × Frame) := do
  let endpoints ← (Json.getOr frame "endpoints" (.array [])).iterate
  let resolution ← endpoints.foldlM (resolveEndpoint session.registry) ⟨.empty, [], []⟩
  if resolution.errors ≠ [] then return (session, false, registerRefusal resolution.errors)
  else return ({ session with
    bindings := resolution.bindings
    cachedBindings := resolution.bindings
    cachedManifestHash := Json.textOr frame "manifest_hash" "" },
    true, registerAck resolution.resolved)

def handleRegisterResume (frame : Frame) (session : ModuleSession) :
    ModuleSession × Bool × Frame :=
  let manifestHash := Json.textOr frame "manifest_hash" ""
  if session.cachedBindings.entries = [] ∨ manifestHash ≠ session.cachedManifestHash then
    (session, false, registerRefusal [.object [
      ("endpoint", .string "*"),
      ("reason", .string "cache_miss"),
      ("detail", .string ("module has no cached bindings matching manifest_hash=" ++
        TextOf.quoted manifestHash))]])
  else ({ session with bindings := session.cachedBindings }, true,
    registerAck (session.cachedBindings.keys.map fun pair => pair.1 ++ " " ++ pair.2))

def welcomed (welcome : Frame) (session : ModuleSession) : Option ModuleSession :=
  if isType "welcome" welcome && Json.isText gatewayVersion (Json.get welcome "gateway_version")
  then match (Json.getOr welcome "capabilities" (.array [])).iterate with
    | .ok daemonCapabilities => some { session with daemonCapabilities }
    | .error _ => none
  else none

/-- `_handshake`, on the frame after it: the answer, if there is one. -/
def registered (frame : Frame) (session : ModuleSession) : ModuleSession × Option (Bool × Frame) :=
  if isType "register_resume" frame then
    let (later, answer) := session.handleRegisterResume frame
    (later, some answer)
  else if isType "register" frame then
    match session.handleRegister frame with
    | .ok (later, answer) => (later, some answer)
    | .error _ => (session, none)
  else (session, none)

variable [Floats] [Digest]

def meet (server : GatewayServer) (session : ModuleSession) :
    ModuleSession × Option (Bool × Frame) :=
  match session.welcomed server.welcome with
  | none => (session, none)
  | some greeted => greeted.registered
      (server.registration (Json.textOr session.hello "cached_manifest_hash" ""))

def Joins (server : GatewayServer) (session : ModuleSession) : Prop :=
  ∃ answer, (session.meet server).2 = some (true, answer)

end ModuleSession

/-- What happens to a client. A connection may be lost behind `welcome`. -/
inductive ModuleEvent where
  | registered (method path : String) (handler : Handler)
  | met (server : GatewayServer)
  | lost (welcome : Frame)

namespace ModuleSession

variable [TextCase] [TextOf] [Floats] [Digest]

def step (session : ModuleSession) : ModuleEvent → ModuleSession
  | .registered method path handler => (session.register method path handler).getD session
  | .met server => (session.meet server).1
  | .lost welcome => (session.welcomed welcome).getD session

def after (session : ModuleSession) (events : List ModuleEvent) : ModuleSession :=
  events.foldl step session

end ModuleSession

/-! ## One registration -/

def asked [TextCase] (endpoint : GatewayEndpoint) : String × String :=
  (upper endpoint.method, shownPath endpoint.path)

section Resolving

variable [TextCase] [TextOf] (registry : Dict (String × String) Handler)

theorem resolve_declared (resolution : Resolution) (endpoint : GatewayEndpoint) :
    ∃ later, ModuleSession.resolveEndpoint registry resolution (declared endpoint) = .ok later ∧
      (later.errors = [] ↔ resolution.errors = [] ∧ (registry.get? (asked endpoint)).isSome) ∧
      ∀ pair, later.bindings.get? pair =
        (if pair = asked endpoint then registry.get? pair else none).or
          (resolution.bindings.get? pair) := by
  unfold declared ModuleSession.resolveEndpoint
  dsimp only
  rw [textOr_blank endpoint.method (by simp), textOr_string endpoint.path
    (by simp [Json.member_cons]), ← shownPath, TextCase.upper_upper]
  cases found : registry.get? (upper endpoint.method, shownPath endpoint.path) with
  | none =>
      refine ⟨_, rfl, by simp [asked, found], fun pair => ?_⟩
      split
      · next same => rw [same, asked, found, Option.none_or]
      · rfl
  | some handler =>
      refine ⟨_, rfl, by simp [asked, found], fun pair => ?_⟩
      split
      · next same => rw [same, asked, found, Dict.get?_set_same, Option.some_or]
      · next different => exact Dict.get?_set_other _ different handler

theorem resolve_all (endpoints : List GatewayEndpoint) (resolution : Resolution) :
    ∃ later, (endpoints.map declared).foldlM (ModuleSession.resolveEndpoint registry) resolution =
        .ok later ∧
      (later.errors = [] ↔ resolution.errors = [] ∧
        ∀ pair ∈ endpoints.map asked, (registry.get? pair).isSome) ∧
      ∀ pair, later.bindings.get? pair =
        (if pair ∈ endpoints.map asked then registry.get? pair else none).or
          (resolution.bindings.get? pair) := by
  induction endpoints generalizing resolution with
  | nil => exact ⟨resolution, rfl, by simp, by simp⟩
  | cons endpoint rest induction =>
      rcases resolve_declared registry resolution endpoint with
        ⟨middle, stepped, errors, bindings⟩
      rcases induction middle with ⟨later, folded, others, bound⟩
      refine ⟨later, ?_, ?_, fun pair => ?_⟩
      · rw [List.map_cons, List.foldlM_cons, stepped]
        exact folded
      · rw [others, errors, List.map_cons, List.forall_mem_cons, and_assoc]
      · rw [bound, bindings, List.map_cons, ← Option.or_assoc]
        congr 1
        by_cases first : pair = asked endpoint
        · rw [if_pos first, if_pos (List.mem_cons.mpr (.inl first))]
          split
          · exact Option.or_self
          · exact Option.none_or
        · simp only [List.mem_cons, first, false_or, if_false, Option.or_none]

end Resolving

/-! ## Hashes -/

section Hashes

variable [Floats] [Digest]

theorem asked_of_manifestHash [TextCase] (injective : Function.Injective Digest.sha256)
    {endpoints others : List GatewayEndpoint} (held : HeldSchemas endpoints)
    (heldOthers : HeldSchemas others) (same : manifestHash endpoints = manifestHash others) :
    endpoints.map asked = others.map asked := by
  have texts : StandardJson.canonical (manifest endpoints) =
      StandardJson.canonical (manifest others) := by
    apply injective
    apply String.toList_injective
    have whole := congrArg String.toList same
    unfold manifestHash at whole
    rw [String.toList_append, String.toList_append] at whole
    exact List.append_cancel_left whole
  have manifests := StandardJson.same_of_canonical (held_manifest held)
    (held_manifest heldOthers) texts
  have arrays : Json.Same (.array (endpoints.map declared)) (.array (others.map declared)) :=
    same_of_some (manifests.member "endpoints")
  have listed := List.forall₂_map_left_iff.mp (List.forall₂_map_right_iff.mp (items_of_same arrays))
  clear held heldOthers same texts manifests arrays
  induction listed with
  | nil => rfl
  | cons alike _ induction =>
      have fields := fields_of_declared alike
      rw [List.map_cons, List.map_cons, induction, asked, asked, fields.1, fields.2.1]

theorem registration_eq (server : GatewayServer) (cachedHash : String) :
    server.registration cachedHash =
      let endpoints := registeredIn server.endpoints
      let hash := ("manifest_hash", Json.string (manifestHash endpoints))
      if cachedHash = manifestHash endpoints then [("type", .string "register_resume"), hash]
      else [("type", .string "register"), hash, ("endpoints", .array (endpoints.map declared)),
        ("schemas", .object (schemas endpoints).entries)] := by
  have blocks := registerBlocks_eq (registeredIn server.endpoints)
  have given : manifestHash (registeredIn server.endpoints) ≠ "" :=
    append_ne (by decide) _
  unfold GatewayServer.registration
  rw [← registeredIn, blocks]
  dsimp only
  rw [← manifest, ← manifestHash]
  by_cases same : cachedHash = manifestHash (registeredIn server.endpoints)
  · rw [if_pos ⟨same ▸ given, same⟩, if_pos same]
  · rw [if_neg fun both => same both.2, if_neg same]

end Hashes

/-! ## Runs -/

section Runs

variable [TextCase] [TextOf] [Floats] [Digest]

def pairs (server : GatewayServer) : List (String × String) :=
  (registeredIn server.endpoints).map asked

namespace ModuleSession

def Stuck (server : GatewayServer) (session : ModuleSession) : Prop :=
  session.cachedManifestHash = manifestHash (registeredIn server.endpoints) ∧
    session.cachedBindings.entries = []

def Binds (registry bindings : Dict (String × String) Handler) (pairs : List (String × String)) :
    Prop :=
  (∀ pair ∈ pairs, bindings.get? pair = registry.get? pair) ∧
    ∀ pair ∉ pairs, bindings.get? pair = none

structure Carries (session : ModuleSession) (server : GatewayServer)
    (connection : ModuleConnection) : Prop where
  usable : connection.closed = false ∧ connection.failure = fun _ _ => none
  answered : ∃ joined answer rest, (session.meet server).2 = some (joined, answer) ∧
    connection.incoming = .frame session.hello :: .frame answer :: rest

/-- How a module meets a daemon: it joins if it has handlers for all endpoints, unless it is
stuck; then it has bound these, and the daemon takes it on. -/
structure Registers (server : GatewayServer) (session : ModuleSession) : Prop where
  joins : session.Joins server ↔
    (∀ pair ∈ pairs server, (session.registry.get? pair).isSome) ∧ ¬session.Stuck server
  bound : session.Joins server →
    Binds session.registry (session.meet server).1.bindings (pairs server)
  taken : ∀ connection, session.Carries server connection →
    ((server.doHandshake.run connection).1 = .ok () ↔ session.Joins server)

def Cached (session : ModuleSession) : Prop :=
  session.cachedBindings.entries = [] ∨ ∃ endpoints, HeldSchemas endpoints ∧
    session.cachedManifestHash = manifestHash endpoints ∧
    (∀ pair ∈ endpoints.map asked, (session.registry.get? pair).isSome) ∧
    Binds session.registry session.cachedBindings (endpoints.map asked)

omit [TextCase] [Floats] [Digest] in
theorem textOr_hello (session : ModuleSession) :
    Json.textOr session.hello "cached_manifest_hash" "" = session.cachedManifestHash := by
  by_cases cold : session.cachedManifestHash = ""
  · simp [hello, cold, Json.textOr, Json.member_cons]
  · exact textOr_blank _ (by simp [hello, cold, Json.member_cons])

theorem meet_eq (server : GatewayServer) (session : ModuleSession) :
    session.meet server = ({ session with
      daemonCapabilities := server.daemonCapabilities.map .string } : ModuleSession).registered
        (server.registration session.cachedManifestHash) := by
  unfold meet
  rw [textOr_hello]
  rfl

variable {server : GatewayServer} {session : ModuleSession}

inductive Answer : Bool → Frame → Prop
  | joined (resolved : List String) : Answer true (registerAck resolved)
  | refused (errors : List Json) : Answer false (registerRefusal errors)

theorem registers_of_meet {later : ModuleSession} {joined : Bool} {answer : Frame}
    (met : session.meet server = (later, some (joined, answer))) (form : Answer joined answer)
    (decides : joined = true ↔
      (∀ pair ∈ pairs server, (session.registry.get? pair).isSome) ∧ ¬session.Stuck server)
    (binds : joined = true → Binds session.registry later.bindings (pairs server)) :
    Registers server session := by
  have joins : session.Joins server ↔ joined = true := by
    unfold Joins
    rw [met]
    cases joined <;> simp
  refine ⟨joins.trans decides, fun own => by rw [met]; exact binds (joins.mp own), ?_⟩
  intro connection ⟨⟨usable, takes⟩, other, reply, rest, replied, incoming⟩
  rw [joins]
  rw [met] at replied
  cases replied
  -- Both ends compute, whatever is registered.
  rcases connection with ⟨_, _, _, closed, delivered, _, failure⟩
  cases usable
  cases takes
  cases incoming
  cases form with
  | joined => exact iff_of_true rfl rfl
  | refused => exact iff_of_false (by intro same; cases same) (by intro same; cases same)

theorem meet_of_resumed
    (resumed : session.cachedManifestHash = manifestHash (registeredIn server.endpoints)) :
    ∃ answer, if session.cachedBindings.entries = [] then
        Answer false answer ∧ session.meet server = ({ session with
          daemonCapabilities := server.daemonCapabilities.map .string }, some (false, answer))
      else Answer true answer ∧ session.meet server = ({ session with
          daemonCapabilities := server.daemonCapabilities.map .string
          bindings := session.cachedBindings }, some (true, answer)) := by
  rw [meet_eq, registration_eq]
  dsimp only
  rw [if_pos resumed, registered, if_pos (by rfl), handleRegisterResume,
    textOr_blank (manifestHash (registeredIn server.endpoints))
      (by simp [Json.member_cons]), resumed]
  by_cases kept : session.cachedBindings.entries = []
  · simp only [kept, true_or, if_true]
    exact ⟨_, .refused _, rfl⟩
  · simp only [kept, ne_eq, not_true_eq_false, or_self, if_false]
    exact ⟨_, .joined _, rfl⟩

theorem meet_of_registered
    (changed : session.cachedManifestHash ≠ manifestHash (registeredIn server.endpoints)) :
    ∃ answer, (Answer true answer ∧
        (∀ pair ∈ pairs server, (session.registry.get? pair).isSome) ∧
        ∃ bindings, Binds session.registry bindings (pairs server) ∧
          session.meet server = ({ session with
            daemonCapabilities := server.daemonCapabilities.map .string
            bindings := bindings
            cachedBindings := bindings
            cachedManifestHash := manifestHash (registeredIn server.endpoints) },
            some (true, answer))) ∨
      Answer false answer ∧ (¬∀ pair ∈ pairs server, (session.registry.get? pair).isSome) ∧
        session.meet server = ({ session with
          daemonCapabilities := server.daemonCapabilities.map .string }, some (false, answer)) := by
  rw [meet_eq, registration_eq]
  dsimp only
  rw [if_neg changed, registered, if_neg (by simp [isType, Json.get, Json.isText]),
    if_pos (by rfl), handleRegister]
  rcases resolve_all session.registry (registeredIn server.endpoints)
    ⟨.empty, [], []⟩ with ⟨later, folded, errors, bindings⟩
  have binds : Binds session.registry later.bindings (pairs server) := by
    constructor
    · intro pair member
      rw [bindings, if_pos]
      · exact Option.or_none
      · exact member
    · intro pair absent
      rw [bindings, if_neg]
      · rfl
      · exact absent
  rw [getOr_array ((registeredIn server.endpoints).map declared)
      (by simp [Json.member_cons]),
    textOr_blank (manifestHash (registeredIn server.endpoints))
      (by simp [Json.member_cons])]
  simp only [Json.iterate, bind, Except.bind, folded]
  by_cases clean : later.errors = []
  · exact ⟨_, .inl ⟨.joined later.resolved, (errors.mp clean).2, later.bindings, binds,
      by simp [clean, pure, Except.pure]⟩⟩
  · exact ⟨_, .inr ⟨.refused later.errors, fun all => clean (errors.mpr ⟨rfl, all⟩),
      by simp [clean, pure, Except.pure]⟩⟩

theorem registers_of_cached (injective : Function.Injective Digest.sha256)
    (held : HeldSchemas (registeredIn server.endpoints)) (cached : session.Cached) :
    Registers server session ∧ (session.meet server).1.Cached := by
  by_cases resumed : session.cachedManifestHash = manifestHash (registeredIn server.endpoints)
  · rcases meet_of_resumed resumed with ⟨answer, outcome⟩
    by_cases kept : session.cachedBindings.entries = []
    · rw [if_pos kept] at outcome
      refine ⟨registers_of_meet outcome.2 outcome.1 (by simp [Stuck, resumed, kept]) (by simp), ?_⟩
      rw [outcome.2]
      exact .inl kept
    · rw [if_neg kept] at outcome
      rcases cached.resolve_left kept with ⟨endpoints, schemas, hash, resolved, binds⟩
      have same : endpoints.map asked = pairs server :=
        asked_of_manifestHash injective schemas held (hash.symm.trans resumed)
      refine ⟨registers_of_meet outcome.2 outcome.1 ?_ fun _ => same ▸ binds, ?_⟩
      · exact iff_of_true rfl ⟨same ▸ resolved, fun stuck => kept stuck.2⟩
      · rw [outcome.2]
        exact .inr ⟨endpoints, schemas, hash, resolved, binds⟩
  · rcases meet_of_registered resumed with
      ⟨answer, ⟨form, resolved, bindings, binds, met⟩ | ⟨form, missing, met⟩⟩
    · refine ⟨registers_of_meet met form ?_ fun _ => binds, ?_⟩
      · exact iff_of_true rfl ⟨resolved, fun stuck => resumed stuck.1⟩
      · rw [met]
        exact .inr ⟨_, held, rfl, resolved, binds⟩
    · refine ⟨registers_of_meet met form ?_ (by simp), ?_⟩
      · exact iff_of_false (by simp) fun both => missing both.1
      · rw [met]
        exact cached

theorem cached_step (injective : Function.Injective Digest.sha256) {event : ModuleEvent}
    (held : ∀ server, event = .met server → HeldSchemas (registeredIn server.endpoints))
    (cached : session.Cached) : (session.step event).Cached := by
  cases event with
  | met server => exact (registers_of_cached injective (held server rfl) cached).2
  | lost welcome =>
      rw [step, welcomed]
      split
      · split
        · exact cached
        · exact cached
      · exact cached
  | registered method path handler =>
      rw [step, register]
      split
      · exact cached
      · next free =>
          refine cached.imp_right fun ⟨endpoints, schemas, hash, resolved, binds⟩ => ?_
          have same (pair : String × String) (member : pair ∈ endpoints.map asked) :
              (session.registry.set (upper method, path) handler).get? pair =
                session.registry.get? pair :=
            Dict.get?_set_other _ (fun taken => free (by rw [← taken]; exact resolved pair member))
              handler
          refine ⟨endpoints, schemas, hash, fun pair member => ?_, fun pair member => ?_, binds.2⟩
          · exact (congrArg Option.isSome (same pair member)).trans (resolved pair member)
          · exact (binds.1 pair member).trans (same pair member).symm

/-- Whatever daemons a client that starts with nothing meets, whatever is registered or lost
in between, and whether it is resumed or registered anew: it joins a daemon exactly if the
handlers for its endpoints are there and it is not stuck, it then has bound just these, and
the daemon takes it on. -/
theorem registers_after (injective : Function.Injective Digest.sha256)
    (cold : session.cachedBindings.entries = []) (events : List ModuleEvent)
    (held : ∀ server, .met server ∈ events → HeldSchemas (registeredIn server.endpoints))
    (schemas : HeldSchemas (registeredIn server.endpoints)) :
    Registers server (session.after events) := by
  have cached : (session.after events).Cached := by
    have start : session.Cached := .inl cold
    clear cold
    unfold after
    induction events generalizing session with
    | nil => exact start
    | cons event rest induction =>
        apply induction (fun other member => held other (.tail event member))
        apply cached_step injective _ start
        intro other same
        exact held other (same ▸ .head rest)
  exact (registers_of_cached injective schemas cached).1

end ModuleSession

end Runs

namespace RegistrationSamples

open scoped Agtp.Plain PlainServing PartitionSamples

def booking : GatewayServer :=
  { GatewaySamples.daemon with
    endpoints := Dict.empty.set ("BOOK", "/rooms_night") RegisterSamples.flat }

def starting : ModuleSession where
  moduleId := "mod_python"
  moduleVersion := "0.1.0"
  runtime := "CPython 3.12"
  pid := 7
  registry := .empty
  bindings := .empty
  cachedBindings := .empty
  cachedManifestHash := ""
  daemonCapabilities := []

def met : List ModuleEvent :=
  [.registered "book" "/rooms_night" ModuleSamples.signing, .met booking]

theorem held_booking : HeldSchemas (registeredIn booking.endpoints) := by
  intro endpoint member
  have empty : JsonText.Held (.object []) := .object List.nodup_nil fun _ own => by cases own
  rw [List.mem_singleton.mp member]
  exact ⟨empty, empty⟩

theorem resumed_module_registers : ModuleSession.Registers booking (starting.after met) := by
  apply ModuleSession.registers_after PartitionSamples.sha256_injective rfl met _ held_booking
  intro server member
  rcases List.mem_cons.mp member with same | later
  · cases same
  · cases List.mem_singleton.mp later
    exact held_booking

end RegistrationSamples

end Agtp.Gateway
