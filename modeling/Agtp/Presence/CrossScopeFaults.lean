import Agtp.Foundation.KeyedDict
import Agtp.Foundation.Loop

/-! # Faults of rendezvous nodes and providers

Discovery across scopes contains no fault: it returns exactly if no answer has one. -/

/-! ## Cross-scope discovery

`cross_scope_discover`: the rendezvous nodes of a scope name its providers, and each
provider lists its agents. Neither is trusted. A call that raises has no result. -/

namespace Agtp

/-- Why `json.loads(body.decode("utf-8"))` fails: with a `UnicodeDecodeError` or a
`JSONDecodeError`, or otherwise, such as for too many digits or too deep a nesting. -/
inductive ReplyFailure where
  | malformed
  | other
  deriving DecidableEq

class ReplyText where
  loads : Bytes → Except ReplyFailure Json

/-- `str.isdigit`, which holds of more than the digits that `int` reads. -/
class DigitText where
  isDigit : String → Bool

namespace CrossScope

/-- What `send_method` comes back with: an `OSError` or a `WireFormatError`, or a
response. -/
inductive Reply where
  | failed
  | response (statusCode : Int) (body : Bytes)

/-! ## Replies -/

def items : Json → Option (List Json)
  | .array values => some values
  | .string text => some (text.toList.map fun character =>
      .string (String.ofList [character]))
  | .object members => some (members.map fun entry => .string entry.1)
  | _ => none

/-- `for item in body.get(name) or []`. -/
def itemsOf (body : Json) (name : String) : Option (List Json) :=
  match body with
  | .object members =>
      match (Json.member members name).filter Json.truthy with
      | some value => items value
      | none => some []
  | _ => none

variable [ReplyText]

def providersFrom : Reply → Option (List Json)
  | .failed => some []
  | .response statusCode body =>
      if statusCode ≠ 200 ∨ body = [] then some []
      else
        match ReplyText.loads body with
        | .ok value => itemsOf value "providers"
        | .error .malformed => some []
        | .error .other => none

def parse (body : Bytes) : Option Json :=
  if body = [] then some (.object [])
  else
    match ReplyText.loads body with
    | .ok value => some value
    | .error .malformed => some (.object [])
    | .error .other => none

def discoverPopulationJson : Reply → Option Json
  | .failed => none
  | .response _ body => parse body

/-! ## Providers -/

omit [ReplyText] in
def addProvider (providers : List Json) (provider : Json) : List Json :=
  match provider with
  | .string endpoint =>
      if providers.any fun
        | .string other => other = endpoint
        | _ => false
      then providers
      else providers ++ [provider]
  | other => providers ++ [other]

def collectProviders (rendezvous : List Reply) : Option (List Json) :=
  rendezvous.foldlM (fun providers reply =>
    (providersFrom reply).map (·.foldl addProvider providers)) []

omit [ReplyText] in
def rpartition (text : String) : String × String :=
  match text.toList.reverse.dropWhile (· ≠ ':') with
  | [] => ("", text)
  | _ :: before =>
      (String.ofList before.reverse,
        String.ofList (text.toList.reverse.takeWhile (· ≠ ':')).reverse)

/-! ## Merging -/

omit [ReplyText] in
def agentKey : Json → Option DictKey
  | .object members => DictKey.ofJson? ((Json.member members "agent_id").getD .null)
  | _ => none

variable [DigitText] [NumberText] [Floats]

omit [ReplyText] [DigitText] [NumberText] in
def mergeResult (merged : KeyedEntries) (result : Json) : Option KeyedEntries :=
  (agentKey result).map fun key => merged.set key result

def discoverFrom (population : String → Reply) (merged : KeyedEntries) (provider : Json) :
    Option KeyedEntries :=
  match provider with
  | .string endpoint =>
      let (host, port) := rpartition endpoint
      if host = "" ∨ DigitText.isDigit port = false then some merged
      else
        (NumberText.intOfText port).bind fun _ =>
        (discoverPopulationJson (population endpoint)).bind fun body =>
        (itemsOf body "results").bind fun results =>
          results.foldlM mergeResult merged
  | _ => none

structure Discovered where
  capability : String
  providers : List Json
  results : List Json

/-- `cross_scope_discover`, on the answers of the rendezvous nodes and of the
providers, each by the endpoint that it is named by. -/
def crossScopeDiscover (capability : String) (rendezvous : List Reply)
    (population : String → Reply) : Option Discovered :=
  (collectProviders rendezvous).bind fun providers =>
  (providers.foldlM (discoverFrom population) []).map fun merged =>
    ⟨capability, providers, merged.map Prod.snd⟩

end CrossScope

end Agtp

namespace Agtp

/-! ## Keys -/

namespace DictKey

variable [Floats]

theorem same_symm {left right : DictKey} (same : left.same right = true) :
    right.same left = true := by
  cases left <;> cases right <;>
    simp_all [DictKey.same, DictKey.isNumber]

theorem same_trans {left middle right : DictKey} (first : left.same middle = true)
    (second : middle.same right = true) : left.same right = true := by
  cases left <;> cases middle <;> cases right <;>
    simp_all [DictKey.same, DictKey.isNumber]

end DictKey

namespace KeyedEntries

variable [Floats]

def Holds (key : DictKey) (entries : KeyedEntries) : Prop :=
  ∃ entry ∈ entries, entry.1.same key = true

theorem holds_set_self (key : DictKey) (value : Json) (entries : KeyedEntries) :
    Holds key (entries.set key value) := by
  induction entries with
  | nil => exact ⟨(key, value), List.mem_singleton_self _, key.same_self⟩
  | cons first rest induction =>
      obtain ⟨held, old⟩ := first
      rw [set]
      split
      · next equal => exact ⟨(held, value), List.mem_cons_self, equal⟩
      · rcases induction with ⟨entry, member, equal⟩
        exact ⟨entry, List.mem_cons_of_mem _ member, equal⟩

theorem holds_set {wanted : DictKey} {entries : KeyedEntries} (holds : Holds wanted entries)
    (key : DictKey) (value : Json) : Holds wanted (entries.set key value) := by
  induction entries with
  | nil =>
      rcases holds with ⟨_, member, _⟩
      cases member
  | cons first rest induction =>
      obtain ⟨held, old⟩ := first
      rcases holds with ⟨entry, member, equal⟩
      rw [set]
      split
      · rcases List.mem_cons.mp member with here | later
        · rw [here] at equal
          exact ⟨(held, value), List.mem_cons_self, equal⟩
        · exact ⟨entry, List.mem_cons_of_mem _ later, equal⟩
      · rcases List.mem_cons.mp member with here | later
        · exact ⟨(held, old), List.mem_cons_self, by rw [here] at equal; exact equal⟩
        · rcases induction ⟨entry, later, equal⟩ with ⟨found, within, same⟩
          exact ⟨found, List.mem_cons_of_mem _ within, same⟩

end KeyedEntries

namespace CrossScope

/-! ## Harmless answers -/

section Answers

/-- `body.get(name) or []` can be iterated: `body` is an object, and what it holds
is a list, a text or an object unless it counts as absent. -/
def Iterates (body : Json) (name : String) : Prop :=
  ∃ members, body = .object members ∧
    ∀ value, Json.member members name = some value → value.truthy = true →
      (∃ values, value = .array values) ∨ (∃ text, value = .string text) ∨
        ∃ entries, value = .object entries

theorem items_isSome_iff (value : Json) :
    (items value).isSome ↔ (∃ values, value = .array values) ∨
      (∃ text, value = .string text) ∨ ∃ entries, value = .object entries := by
  cases value <;> simp [items]

theorem itemsOf_isSome_iff (body : Json) (name : String) :
    (itemsOf body name).isSome ↔ Iterates body name := by
  unfold Iterates
  cases body with
  | object members =>
      unfold itemsOf
      cases found : Json.member members name with
      | none => simp [found]
      | some value =>
          cases truthy : value.truthy with
          | false => simp [Option.filter, truthy, found]
          | true => simp [Option.filter, truthy, found, items_isSome_iff]
  | _ => simp [itemsOf]

variable [ReplyText]

def HarmlessNames : Reply → Prop
  | .failed => True
  | .response statusCode body => statusCode = 200 → body ≠ [] →
      ReplyText.loads body ≠ .error .other ∧
        ∀ value, ReplyText.loads body = .ok value → Iterates value "providers"

def Names (reply : Reply) (provider : Json) : Prop :=
  ∃ body value named, reply = .response 200 body ∧ body ≠ [] ∧
    ReplyText.loads body = .ok value ∧ itemsOf value "providers" = some named ∧
    provider ∈ named

/-- A provider answers, and lists nothing but objects whose `agent_id` can be a
key. -/
def HarmlessPopulation (reply : Reply) : Prop :=
  ∃ statusCode body, reply = .response statusCode body ∧ (body ≠ [] →
    ReplyText.loads body ≠ .error .other ∧
      ∀ value, ReplyText.loads body = .ok value →
        ∃ results, itemsOf value "results" = some results ∧
          ∀ result ∈ results, (agentKey result).isSome)

variable [DigitText] [NumberText]

/-- A provider is named by a text; if that is an endpoint, its port is read and the
provider there is harmless. -/
def HarmlessProvider (population : String → Reply) (provider : Json) : Prop :=
  ∃ endpoint, provider = .string endpoint ∧
    ((rpartition endpoint).1 ≠ "" → DigitText.isDigit (rpartition endpoint).2 = true →
      (NumberText.intOfText (rpartition endpoint).2).isSome ∧
        HarmlessPopulation (population endpoint))

structure Harmless (rendezvous : List Reply) (population : String → Reply) : Prop where
  nodes : ∀ reply ∈ rendezvous, HarmlessNames reply
  providers : ∀ reply ∈ rendezvous, ∀ provider, Names reply provider →
    HarmlessProvider population provider

end Answers

/-! ## Names of providers -/

section Names

theorem mem_addProvider {providers : List Json} {provider other : Json} :
    other ∈ addProvider providers provider ↔ other ∈ providers ∨ other = provider := by
  have appended : other ∈ providers ++ [provider] ↔
      other ∈ providers ∨ other = provider := by
    rw [List.mem_append, List.mem_singleton]
  unfold addProvider
  split
  · next endpoint =>
      split
      · next listed =>
          rcases List.any_eq_true.mp listed with ⟨held, member, equal⟩
          have same : held = .string endpoint := by
            cases held with
            | string text => exact congrArg Json.string (of_decide_eq_true equal)
            | _ => cases equal
          constructor
          · exact .inl
          · intro either
            rcases either with within | here
            · exact within
            · rw [here, ← same]
              exact member
      · exact appended
  · exact appended

theorem mem_foldl_addProvider {found providers : List Json} {provider : Json} :
    provider ∈ found.foldl addProvider providers ↔
      provider ∈ providers ∨ provider ∈ found := by
  induction found generalizing providers with
  | nil => simp
  | cons first rest induction =>
      rw [List.foldl_cons, induction, mem_addProvider, List.mem_cons, or_assoc]

variable [ReplyText]

theorem providersFrom_isSome_iff (reply : Reply) :
    (providersFrom reply).isSome ↔ HarmlessNames reply := by
  cases reply with
  | failed => simp [providersFrom, HarmlessNames]
  | response statusCode body =>
      simp only [providersFrom, HarmlessNames]
      by_cases read : statusCode ≠ 200 ∨ body = []
      · rw [if_pos read]
        simp only [Option.isSome_some, true_iff]
        intro success present
        rcases read with other | empty
        · exact absurd success other
        · exact absurd empty present
      · rw [if_neg read]
        rcases not_or.mp read with ⟨success, present⟩
        rcases loaded : ReplyText.loads body with failure | value
        · cases failure <;> simp [not_not.mp success, present]
        · simp [not_not.mp success, present, itemsOf_isSome_iff]

theorem mem_providersFrom {reply : Reply} {named : List Json}
    (read : providersFrom reply = some named) (provider : Json) :
    provider ∈ named ↔ Names reply provider := by
  unfold Names
  cases reply with
  | failed =>
      cases read
      simp
  | response statusCode body =>
      simp only [providersFrom] at read
      split at read
      · next passed =>
          cases read
          simp only [List.not_mem_nil, false_iff]
          intro ⟨other, value, named, same, present, _⟩
          cases same
          rcases passed with failed | empty
          · exact failed rfl
          · exact present empty
      · next answered =>
          rcases not_or.mp answered with ⟨success, present⟩
          have ok := not_not.mp success
          subst ok
          split at read
          · next value loaded =>
              constructor
              · intro member
                exact ⟨body, value, named, rfl, present, loaded, read, member⟩
              · intro ⟨other, held, listed, same, _, heldLoaded, iterated, member⟩
                cases same
                rw [loaded] at heldLoaded
                cases heldLoaded
                rw [read] at iterated
                cases iterated
                exact member
          · next loaded =>
              cases read
              simp only [List.not_mem_nil, false_iff]
              intro ⟨other, held, _, same, _, heldLoaded, _⟩
              cases same
              rw [loaded] at heldLoaded
              cases heldLoaded
          · cases read

theorem collectProviders_isSome_iff (rendezvous : List Reply) :
    (collectProviders rendezvous).isSome ↔ ∀ reply ∈ rendezvous, HarmlessNames reply := by
  apply FoldOption.isSome_foldlM_iff
  intro providers reply
  rw [Option.isSome_map, providersFrom_isSome_iff]

theorem mem_collectProviders {rendezvous : List Reply} {providers : List Json}
    (collected : collectProviders rendezvous = some providers) (provider : Json) :
    provider ∈ providers ↔ ∃ reply ∈ rendezvous, Names reply provider := by
  have general (start : List Json)
      (folded : rendezvous.foldlM (fun providers reply =>
        (providersFrom reply).map (·.foldl addProvider providers)) start =
          some providers) :
      provider ∈ providers ↔
        provider ∈ start ∨ ∃ reply ∈ rendezvous, Names reply provider := by
    clear collected
    induction rendezvous generalizing start with
    | nil =>
        cases folded
        simp
    | cons reply rest induction =>
        rw [List.foldlM_cons] at folded
        rcases Option.bind_eq_some_iff.mp folded with ⟨next, stepped, later⟩
        rcases Option.map_eq_some_iff.mp stepped with ⟨named, read, added⟩
        rw [induction next later, ← added, mem_foldl_addProvider, mem_providersFrom read]
        simp [or_assoc]
  simpa using general [] collected

end Names

/-! ## Success -/

section Success

theorem mergeResult_isSome_iff [Floats] (merged : KeyedEntries) (result : Json) :
    (mergeResult merged result).isSome ↔ (agentKey result).isSome := by
  rw [mergeResult, Option.isSome_map]

variable [ReplyText] [Floats]

theorem merged_isSome_iff (reply : Reply) (merged : KeyedEntries) :
    ((discoverPopulationJson reply).bind fun body =>
      (itemsOf body "results").bind fun results =>
        results.foldlM mergeResult merged).isSome ↔ HarmlessPopulation reply := by
  have empty : (itemsOf (.object []) "results").bind (fun results =>
      results.foldlM mergeResult merged) = some merged := rfl
  cases reply with
  | failed => simp [discoverPopulationJson, HarmlessPopulation]
  | response statusCode body =>
      simp only [discoverPopulationJson, parse, HarmlessPopulation, Reply.response.injEq]
      by_cases none : body = []
      · rw [if_pos none, Option.bind_some, empty]
        exact ⟨fun _ => ⟨statusCode, body, ⟨rfl, rfl⟩, fun present => absurd none present⟩,
          fun _ => rfl⟩
      · rw [if_neg none]
        rcases loaded : ReplyText.loads body with failure | value
        · cases failure with
          | malformed =>
              rw [Option.bind_some, empty]
              refine ⟨fun _ => ⟨statusCode, body, ⟨rfl, rfl⟩, fun _ => ?_⟩, fun _ => rfl⟩
              rw [loaded]
              exact ⟨nofun, nofun⟩
          | other =>
              simp only [Option.bind_none, Option.isSome_none, Bool.false_eq_true,
                false_iff]
              intro ⟨status, held, ⟨_, same⟩, fine⟩
              subst same
              exact (fine none).1 loaded
        · rw [Option.bind_some]
          constructor
          · intro succeeds
            refine ⟨statusCode, body, ⟨rfl, rfl⟩, fun _ => ⟨by rw [loaded]; nofun, ?_⟩⟩
            intro held heldLoaded
            rw [loaded] at heldLoaded
            cases heldLoaded
            rcases Option.isSome_iff_exists.mp succeeds with ⟨final, folded⟩
            rcases Option.bind_eq_some_iff.mp folded with ⟨results, listed, later⟩
            exact ⟨results, listed, (FoldOption.isSome_foldlM_iff mergeResult_isSome_iff
              results merged).mp (Option.isSome_iff_exists.mpr ⟨final, later⟩)⟩
          · intro ⟨status, held, ⟨_, same⟩, fine⟩
            subst same
            rcases (fine none).2 value loaded with ⟨results, listed, keyed⟩
            rw [listed]
            exact (FoldOption.isSome_foldlM_iff mergeResult_isSome_iff results
              merged).mpr keyed

variable [DigitText] [NumberText]

theorem discoverFrom_isSome_iff (population : String → Reply) (merged : KeyedEntries)
    (provider : Json) :
    (discoverFrom population merged provider).isSome ↔
      HarmlessProvider population provider := by
  unfold HarmlessProvider
  cases provider with
  | string endpoint =>
      simp only [discoverFrom, Json.string.injEq]
      by_cases passed : (rpartition endpoint).1 = "" ∨
          DigitText.isDigit (rpartition endpoint).2 = false
      · rw [if_pos passed]
        refine ⟨fun _ => ⟨endpoint, rfl, fun host digits => ?_⟩, fun _ => rfl⟩
        rcases passed with none | other
        · exact absurd none host
        · rw [digits] at other
          cases other
      · rw [if_neg passed]
        rcases not_or.mp passed with ⟨host, digits⟩
        have isPort : DigitText.isDigit (rpartition endpoint).2 = true := by
          simpa using digits
        cases read : NumberText.intOfText (rpartition endpoint).2 with
        | none =>
            simp only [Option.bind_none, Option.isSome_none, Bool.false_eq_true, false_iff]
            intro ⟨other, same, fine⟩
            subst same
            have isRead := (fine host isPort).1
            rw [read] at isRead
            cases isRead
        | some port =>
            rw [Option.bind_some, merged_isSome_iff]
            constructor
            · intro harmless
              exact ⟨endpoint, rfl, fun _ _ => ⟨by rw [read]; rfl, harmless⟩⟩
            · intro ⟨other, same, fine⟩
              subst same
              exact (fine host isPort).2
  | _ => simp [discoverFrom]

theorem crossScopeDiscover_isSome_iff (capability : String) (rendezvous : List Reply)
    (population : String → Reply) :
    (crossScopeDiscover capability rendezvous population).isSome ↔
      Harmless rendezvous population := by
  unfold crossScopeDiscover
  constructor
  · intro succeeds
    rcases Option.isSome_iff_exists.mp succeeds with ⟨outcome, discovered⟩
    rcases Option.bind_eq_some_iff.mp discovered with ⟨providers, collected, later⟩
    rcases Option.map_eq_some_iff.mp later with ⟨merged, folded, _⟩
    constructor
    · exact (collectProviders_isSome_iff rendezvous).mp
        (Option.isSome_iff_exists.mpr ⟨providers, collected⟩)
    · intro reply within provider named
      exact (FoldOption.isSome_foldlM_iff (discoverFrom_isSome_iff population) providers
        []).mp (Option.isSome_iff_exists.mpr ⟨merged, folded⟩) provider
          ((mem_collectProviders collected provider).mpr ⟨reply, within, named⟩)
  · intro harmless
    rcases Option.isSome_iff_exists.mp
      ((collectProviders_isSome_iff rendezvous).mpr harmless.nodes) with
      ⟨providers, collected⟩
    rw [collected, Option.bind_some, Option.isSome_map]
    apply (FoldOption.isSome_foldlM_iff (discoverFrom_isSome_iff population) providers
      []).mpr
    intro provider member
    rcases (mem_collectProviders collected provider).mp member with ⟨reply, within, named⟩
    exact harmless.providers reply within provider named

end Success

/-! ## What is merged -/

section Merging

variable [Floats]

structure Merged (entries : KeyedEntries) : Prop where
  distinct : entries.Distinct
  keyed : ∀ entry ∈ entries, ∃ key, agentKey entry.2 = some key ∧ entry.1.same key = true

theorem entry_of_mem_set {key : DictKey} {value : Json} {entries : KeyedEntries}
    {entry : DictKey × Json} (member : entry ∈ entries.set key value) :
    entry ∈ entries ∨ entry.2 = value ∧ entry.1.same key = true := by
  induction entries with
  | nil =>
      rw [List.mem_singleton.mp member]
      exact .inr ⟨rfl, key.same_self⟩
  | cons first rest induction =>
      obtain ⟨held, old⟩ := first
      rw [KeyedEntries.set] at member
      split at member
      · next equal =>
          rcases List.mem_cons.mp member with here | later
          · rw [here]
            exact .inr ⟨rfl, equal⟩
          · exact .inl (List.mem_cons_of_mem _ later)
      · rcases List.mem_cons.mp member with here | later
        · rw [here]
          exact .inl List.mem_cons_self
        · rcases induction later with within | own
          · exact .inl (List.mem_cons_of_mem _ within)
          · exact .inr own

theorem merged_mergeResult {merged next : KeyedEntries} {result : Json}
    (stepped : mergeResult merged result = some next) (held : Merged merged) :
    Merged next := by
  rcases Option.map_eq_some_iff.mp stepped with ⟨key, named, set⟩
  subst set
  refine ⟨KeyedEntries.distinct_set held.distinct key result, fun entry member => ?_⟩
  rcases entry_of_mem_set member with within | ⟨value, equal⟩
  · exact held.keyed entry within
  · exact ⟨key, by rw [value, named], equal⟩

theorem holds_mergeResult {wanted : DictKey} {merged next : KeyedEntries} {result : Json}
    (stepped : mergeResult merged result = some next) (held : merged.Holds wanted) :
    next.Holds wanted := by
  rcases Option.map_eq_some_iff.mp stepped with ⟨key, _, set⟩
  subst set
  exact KeyedEntries.holds_set held key result

variable [ReplyText] [DigitText] [NumberText]

theorem preserved_discoverFrom {Invariant : KeyedEntries → Prop}
    (preserves : ∀ merged result next, mergeResult merged result = some next →
      Invariant merged → Invariant next)
    {population : String → Reply} {merged next : KeyedEntries} {provider : Json}
    (stepped : discoverFrom population merged provider = some next)
    (holds : Invariant merged) : Invariant next := by
  cases provider with
  | string endpoint =>
      simp only [discoverFrom] at stepped
      split at stepped
      · cases stepped
        exact holds
      · rcases Option.bind_eq_some_iff.mp stepped with ⟨_, _, answered⟩
        rcases Option.bind_eq_some_iff.mp answered with ⟨_, _, listed⟩
        rcases Option.bind_eq_some_iff.mp listed with ⟨_, _, folded⟩
        exact FoldOption.preserved_foldlM preserves folded holds
  | _ => cases stepped

/-! ## Containment -/

def HonestlyNames (reply : Reply) (endpoint : String) : Prop :=
  ∃ body members endpoints, reply = .response 200 body ∧ body ≠ [] ∧
    ReplyText.loads body = .ok (.object members) ∧
    Json.member members "providers" = some (.array endpoints) ∧
    .string endpoint ∈ endpoints

def HonestlyLists (reply : Reply) (agentId : String) : Prop :=
  ∃ body members results entry, reply = .response 200 body ∧ body ≠ [] ∧
    ReplyText.loads body = .ok (.object members) ∧
    Json.member members "results" = some (.array results) ∧
    .object entry ∈ results ∧
    Json.member entry "agent_id" = some (.string agentId)

def IsEndpoint (endpoint : String) : Prop :=
  (rpartition endpoint).1 ≠ "" ∧ DigitText.isDigit (rpartition endpoint).2 = true

/-- No agent id has two results, and every agent that an honest provider of an honest
rendezvous node lists has one. -/
structure Contained (rendezvous : List Reply) (population : String → Reply)
    (outcome : Discovered) : Prop where
  once : outcome.results.Pairwise fun left right =>
    ∀ leftKey rightKey, agentKey left = some leftKey → agentKey right = some rightKey →
      leftKey.same rightKey = false
  complete : ∀ reply ∈ rendezvous, ∀ endpoint agentId, HonestlyNames reply endpoint →
    IsEndpoint endpoint → HonestlyLists (population endpoint) agentId →
    ∃ result ∈ outcome.results, agentKey result = some (.text agentId)

omit [Floats] [ReplyText] [DigitText] [NumberText] in
theorem itemsOf_of_member {members : List (String × Json)} {name : String}
    {first : Json} {values : List Json}
    (held : Json.member members name = some (.array values)) (member : first ∈ values) :
    itemsOf (.object members) name = some values := by
  have nonempty : (Json.array values).truthy = true := by
    cases values with
    | nil => cases member
    | cons _ _ => rfl
  simp [itemsOf, held, Option.filter, nonempty, items]

omit [Floats] [DigitText] [NumberText] in
theorem names_of_honestlyNames {reply : Reply} {endpoint : String}
    (honest : HonestlyNames reply endpoint) : Names reply (.string endpoint) := by
  rcases honest with ⟨body, members, endpoints, answered, present, loaded, held, member⟩
  exact ⟨body, .object members, endpoints, answered, present, loaded,
    itemsOf_of_member held member, member⟩

theorem holds_of_honestlyLists {population : String → Reply} {endpoint agentId : String}
    (endpointShaped : IsEndpoint endpoint)
    (honest : HonestlyLists (population endpoint) agentId)
    {merged next : KeyedEntries}
    (stepped : discoverFrom population merged (.string endpoint) = some next) :
    next.Holds (.text agentId) := by
  rcases honest with ⟨body, members, results, entry, answered, present, loaded, held,
    member, named⟩
  have notPassed : ¬((rpartition endpoint).1 = "" ∨
      DigitText.isDigit (rpartition endpoint).2 = false) := by
    rw [endpointShaped.2]
    intro passed
    rcases passed with none | other
    · exact endpointShaped.1 none
    · cases other
  simp only [discoverFrom] at stepped
  rw [if_neg notPassed] at stepped
  rcases Option.bind_eq_some_iff.mp stepped with ⟨_, _, answer⟩
  rcases Option.bind_eq_some_iff.mp answer with ⟨read, parsed, listed⟩
  rcases Option.bind_eq_some_iff.mp listed with ⟨found, iterated, folded⟩
  have isObject : read = .object members := by
    rw [answered, discoverPopulationJson, parse, if_neg present, loaded] at parsed
    exact (Option.some.inj parsed).symm
  rw [isObject, itemsOf_of_member held member] at iterated
  cases iterated
  have key : agentKey (.object entry) = some (.text agentId) := by
    simp [agentKey, named, DictKey.ofJson?]
  apply FoldOption.established_foldlM ?_ (fun _ _ _ => holds_mergeResult) member folded
  intro state after merging
  rcases Option.map_eq_some_iff.mp merging with ⟨own, ownKey, set⟩
  rw [key] at ownKey
  cases ownKey
  rw [← set]
  exact KeyedEntries.holds_set_self _ _ _

theorem contained_of_discovered {capability : String} {rendezvous : List Reply}
    {population : String → Reply} {outcome : Discovered}
    (discovered : crossScopeDiscover capability rendezvous population = some outcome) :
    Contained rendezvous population outcome := by
  rcases Option.bind_eq_some_iff.mp discovered with ⟨providers, collected, later⟩
  rcases Option.map_eq_some_iff.mp later with ⟨merged, folded, built⟩
  have held : Merged merged := FoldOption.preserved_foldlM
    (fun _ _ _ stepped held => preserved_discoverFrom
      (fun _ _ _ => merged_mergeResult) stepped held) folded
    ⟨.nil, fun _ none => absurd none List.not_mem_nil⟩
  rw [← built]
  constructor
  · rw [List.pairwise_map]
    refine held.distinct.imp_of_mem ?_
    intro left right leftMember rightMember different leftKey rightKey leftNamed rightNamed
    rcases held.keyed left leftMember with ⟨leftHeld, leftOwn, leftSame⟩
    rcases held.keyed right rightMember with ⟨rightHeld, rightOwn, rightSame⟩
    rw [leftNamed] at leftOwn
    rw [rightNamed] at rightOwn
    cases leftOwn
    cases rightOwn
    rw [Bool.eq_false_iff]
    intro same
    have equal := DictKey.same_trans (DictKey.same_trans leftSame same)
      (DictKey.same_symm rightSame)
    rw [different] at equal
    cases equal
  · intro reply within endpoint agentId names shaped lists
    have member := (mem_collectProviders collected (.string endpoint)).mpr
      ⟨reply, within, names_of_honestlyNames names⟩
    have reached : merged.Holds (.text agentId) := FoldOption.established_foldlM
      (fun _ _ stepped => holds_of_honestlyLists shaped lists stepped)
      (fun _ _ _ stepped held => preserved_discoverFrom
        (fun _ _ _ => holds_mergeResult) stepped held) member folded
    rcases reached with ⟨entry, found, equal⟩
    rcases held.keyed entry found with ⟨key, named, same⟩
    have textKey := DictKey.same_trans (DictKey.same_symm equal) same
    have isText : key = .text agentId := by
      cases key with
      | text other => exact congrArg DictKey.text (of_decide_eq_true textKey).symm
      | _ => cases textKey
    exact ⟨entry.2, List.mem_map_of_mem found, by rw [named, isText]⟩

/-- Discovery contains the faults of the servers, that is, it returns a result that
holds no agent twice and loses no honest provider's agent, exactly if no answer is
harmful. -/
theorem discovery_contains_iff (capability : String) (rendezvous : List Reply)
    (population : String → Reply) :
    (∃ outcome, crossScopeDiscover capability rendezvous population = some outcome ∧
      Contained rendezvous population outcome) ↔ Harmless rendezvous population := by
  rw [← crossScopeDiscover_isSome_iff capability, Option.isSome_iff_exists]
  constructor
  · intro ⟨outcome, discovered, _⟩
    exact ⟨outcome, discovered⟩
  · intro ⟨outcome, discovered⟩
    exact ⟨outcome, discovered, contained_of_discovered discovered⟩

end Merging

end CrossScope

end Agtp

namespace Agtp.CrossScopeSamples

open CrossScope
open scoped Plain

scoped instance : ReplyText where
  loads data :=
    match Utf8.decode? data with
    | none => .error .malformed
    | some characters =>
        match JsonText.loads StandardJson.usualLimits characters with
        | .ok value => .ok value
        | .error .malformed => .error .malformed
        | .error (.excess _) => .error .other

def decimal (text : String) : Option Int :=
  (text.toList.foldlM (fun (value : Nat) (digit : Char) =>
    if digit.isDigit then some (10 * value + (digit.toNat - '0'.toNat)) else none) 0).map
      Int.ofNat

scoped instance : DigitText where
  isDigit text := text ≠ "" && text.toList.all Char.isDigit

scoped instance : NumberText where
  intOfText := decimal
  intOfFloat := fun _ => none

def naming (providers : List String) : Reply :=
  .response 200 (StandardJson.canonical (.object
    [("providers", .array (providers.map .string))]))

def onlyB (endpoint : String) : Reply :=
  if endpoint = "b:2" then
    .response 200 (StandardJson.canonical (.object
      [("results", .array [.object [("agent_id", .string "x")]])]))
  else .failed

/-- A provider that is down hides the one that answers. -/
theorem dead_provider_hides_others :
    (¬∃ outcome, crossScopeDiscover "search" [naming ["a:1", "b:2"]] onlyB = some outcome ∧
      Contained [naming ["a:1", "b:2"]] onlyB outcome) ∧
    ((crossScopeDiscover "search" [naming ["b:2"]] onlyB).map fun outcome =>
      outcome.results.map fun result => (agentKey result).map DictKey.printed) =
        some [some "x"] := by
  constructor
  · intro ⟨outcome, discovered, _⟩
    have raises : (crossScopeDiscover "search" [naming ["a:1", "b:2"]] onlyB).isNone =
        true := by
      decide +kernel
    rw [discovered] at raises
    cases raises
  · decide +kernel

end Agtp.CrossScopeSamples
