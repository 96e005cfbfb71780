import Agtp.Core.Ids

/-! # URIs and their components

What is written of some components is read back as them, and what is read of a text is written
as that text. -/

namespace Agtp.Ids

open Agtp.Text (isSpace strip)

/-! ## Trimming -/

def trimmed (text : List Char) : List Char :=
  (text.reverse.dropWhile isSpace).reverse

theorem strip_of_head {first : Char} (solid : isSpace first = false) (rest : List Char) :
    (strip (String.ofList (first :: rest))).toList = trimmed (first :: rest) := by
  rw [strip, String.toList_ofList, String.toList_ofList, List.dropWhile_cons, solid]
  rfl

theorem trimmed_append (before : List Char) {last : Char} (solid : isSpace last = false)
    (after : List Char) :
    trimmed (before ++ last :: after) = before ++ last :: trimmed after := by
  rw [trimmed, trimmed, List.reverse_append, List.reverse_cons, List.append_assoc,
    List.dropWhile_append]
  split
  · next nothing =>
      rw [List.isEmpty_iff.mp nothing, List.singleton_append, List.dropWhile_cons, solid]
      simp
  · simp

theorem trimmed_of_solid {text : List Char}
    (solid : ∀ character ∈ text, isSpace character = false) : trimmed text = text := by
  induction text using List.reverseRecOn with
  | nil => rfl
  | append_singleton before last _ =>
      rw [trimmed_append before (solid last (by simp))]
      rfl

theorem trimmed_eq_self_iff (text : List Char) :
    trimmed text = text ↔ ∀ last ∈ text.getLast?, isSpace last = false := by
  induction text using List.reverseRecOn with
  | nil => exact ⟨fun _ => nofun, fun _ => rfl⟩
  | append_singleton before last _ =>
      rw [List.getLast?_concat]
      constructor
      · intro same character own
        rw [← Option.some.inj own]
        by_contra space
        rw [Bool.not_eq_false] at space
        have shorter : (trimmed (before ++ [last])).length ≤ before.length := by
          rw [trimmed, List.reverse_append, List.reverse_singleton, List.singleton_append,
            List.dropWhile_cons, space, if_pos rfl, List.length_reverse]
          exact (List.dropWhile_suffix _).length_le.trans (List.length_reverse).le
        rw [same, List.length_append] at shorter
        exact absurd shorter (by simp)
      · intro solid
        rw [trimmed_append before (solid last rfl)]
        rfl

theorem eq_nil_of_atEnd {text before rest : List Char} (ended : atEnd rest = true)
    (whole : text = before ++ rest) (kept : ∀ last ∈ text.getLast?, isSpace last = false) :
    rest = [] := by
  rw [atEnd, Bool.or_eq_true, decide_eq_true_eq, decide_eq_true_eq] at ended
  rcases ended with nothing | lineBreak
  · exact nothing
  · rw [whole, lineBreak, List.getLast?_concat] at kept
    exact absurd (kept '\n' rfl) (by decide)

/-! ## Groups -/

theorem afterScheme_eq_some_iff {text rest : List Char} :
    afterScheme text = some rest ↔ text = "agtp://".toList ++ rest := by
  constructor
  · intro found
    rw [afterScheme.eq_def] at found
    split at found
    · rw [Option.some.inj found]
      rfl
    · cases found
  · intro whole
    rw [whole]
    rfl

theorem afterAgents_eq_some_iff {text rest : List Char} :
    afterAgents text = some rest ↔ text = "/agents/".toList ++ rest := by
  constructor
  · intro found
    rw [afterAgents.eq_def] at found
    split at found
    · rw [Option.some.inj found]
      rfl
    · cases found
  · intro whole
    rw [whole]
    rfl

section Groups

variable [DecimalDigits]

theorem takePort_none {text rest : List Char} (taken : takePort text = (none, rest)) :
    rest = text := by
  rw [takePort.eq_def] at taken
  split at taken
  · split at taken
    · exact (Prod.mk.inj taken).2.symm
    · cases (Prod.mk.inj taken).1
  · exact (Prod.mk.inj taken).2.symm

theorem takePort_of_head {text : List Char} (head : ':' ∉ text.head?) :
    takePort text = (none, text) := by
  rw [takePort.eq_def]
  split
  · exact absurd rfl head
  · rfl

theorem of_takeHost {text rest : List Char} {host port : Option String}
    (taken : takeHost text = (host, port, rest)) :
    (∀ name ∈ host, name ≠ "" ∧ name.toList.all hostCharacter = true) ∧
      (port = none → text = (hostSuffix host).toList ++ rest) := by
  rw [takeHost.eq_def] at taken
  split at taken
  · next more =>
      split at taken
      · rcases Prod.mk.inj taken with ⟨rfl, others⟩
        exact ⟨nofun, fun _ => (Prod.mk.inj others).2⟩
      · next filled =>
          rcases Prod.mk.inj taken with ⟨rfl, others⟩
          have named : String.ofList (more.takeWhile hostCharacter) ≠ "" := by
            intro empty
            apply filled
            rw [← String.toList_ofList (l := more.takeWhile hostCharacter), empty]
            rfl
          constructor
          · intro name own
            rw [← Option.some.inj own, String.toList_ofList, List.all_eq_true]
            exact ⟨named, fun character member => List.mem_takeWhile_imp member⟩
          · intro portless
            rw [portless] at others
            rw [takePort_none others, hostSuffix, if_neg named, String.toList_append,
              String.toList_ofList (l := more.takeWhile hostCharacter), List.append_assoc,
              List.takeWhile_append_dropWhile]
            rfl
  · rcases Prod.mk.inj taken with ⟨rfl, others⟩
    exact ⟨nofun, fun _ => (Prod.mk.inj others).2⟩

omit [DecimalDigits] in
theorem of_takeQuery {text rest : List Char} {query : Option String}
    (taken : takeQuery text = (query, rest)) :
    (∀ written ∈ query, '\n' ∉ written.toList) ∧ (query = none → rest = text) := by
  rw [takeQuery.eq_def] at taken
  split at taken
  · next more =>
      rcases Prod.mk.inj taken with ⟨rfl, _⟩
      refine ⟨?_, nofun⟩
      intro written own lineBreak
      rw [← Option.some.inj own, String.toList_ofList] at lineBreak
      have other := List.mem_takeWhile_imp lineBreak
      exact absurd other (by decide)
  · rcases Prod.mk.inj taken with ⟨rfl, rfl⟩
    exact ⟨nofun, fun _ => rfl⟩

theorem of_matchAgentUri {text : List Char} {found : UriMatch}
    (matched : matchAgentUri text = some found) :
    ∃ agentId, isHex agentId = true ∧ found.agentId = some (String.ofList agentId) ∧
      found.handle = none ∧
      (∀ name ∈ found.host, name ≠ "" ∧ name.toList.all hostCharacter = true) ∧
      (∀ written ∈ found.query, '\n' ∉ written.toList) ∧
      (found.port = none → found.query = none → ∃ rest, atEnd rest = true ∧
        text = "agtp://".toList ++ agentId ++ (hostSuffix found.host).toList ++ rest) := by
  rw [matchAgentUri] at matched
  split at matched
  · cases matched
  · next rest schemed =>
      rw [afterScheme_eq_some_iff] at schemed
      rcases located : takeHost (rest.drop 64) with ⟨host, port, between⟩
      rcases queried : takeQuery between with ⟨query, after⟩
      rw [located] at matched
      dsimp only at matched
      rw [queried] at matched
      dsimp only at matched
      split at matched
      · next hex =>
          split at matched
          · next ended =>
              have hostTaken := of_takeHost located
              have queryTaken := of_takeQuery queried
              rw [← Option.some.inj matched]
              refine ⟨rest.take 64, hex, rfl, rfl, hostTaken.1, queryTaken.1, ?_⟩
              intro portless queryless
              refine ⟨after, ended, ?_⟩
              rw [queryTaken.2 queryless, List.append_assoc, ← hostTaken.2 portless,
                List.append_assoc, List.take_append_drop, schemed]
          · cases matched
      · cases matched

omit [DecimalDigits] in
theorem lineBreak_notMem_takeWhile {test : Char → Bool} (other : test '\n' = false)
    (text : List Char) : '\n' ∉ text.takeWhile test := by
  intro member
  rw [List.mem_takeWhile_imp member] at other
  cases other

theorem of_matchDomainAgentUri {text : List Char} {found : UriMatch}
    (matched : matchDomainAgentUri text = some found) :
    ∃ host handle : List Char, found.host = some (String.ofList host) ∧
      found.handle = some (String.ofList handle) ∧ '\n' ∉ host ∧ '\n' ∉ handle ∧
      (found.port = none → ∃ rest, atEnd rest = true ∧
        text = "agtp://".toList ++ host ++ "/agents/".toList ++ handle ++ rest) := by
  rw [matchDomainAgentUri] at matched
  split at matched
  · cases matched
  · next rest schemed =>
      rw [afterScheme_eq_some_iff] at schemed
      rcases ported : takePort (rest.dropWhile hostCharacter) with ⟨port, between⟩
      rw [ported] at matched
      dsimp only at matched
      split at matched
      · cases matched
      · next tail placed =>
          rw [afterAgents_eq_some_iff] at placed
          split at matched
          · next parts =>
              rw [← Option.some.inj matched]
              refine ⟨rest.takeWhile hostCharacter, tail.takeWhile handleCharacter, rfl, rfl,
                lineBreak_notMem_takeWhile (by decide) rest,
                lineBreak_notMem_takeWhile (by decide) tail, ?_⟩
              intro portless
              refine ⟨tail.dropWhile handleCharacter, parts.2.2, ?_⟩
              change port = none at portless
              rw [portless] at ported
              have following := takePort_none ported
              rw [placed] at following
              rw [List.append_assoc, List.takeWhile_append_dropWhile, List.append_assoc,
                following, List.append_assoc, List.takeWhile_append_dropWhile, schemed]
          · cases matched

theorem of_matchServerUri {text : List Char} {found : UriMatch}
    (matched : matchServerUri text = some found) :
    ∃ host : List Char, found.host = some (String.ofList host) ∧ '\n' ∉ host ∧
      (found.port = none → ∃ rest, atEnd rest = true ∧
        text = "agtp://".toList ++ host ++ rest) := by
  rw [matchServerUri] at matched
  split at matched
  · cases matched
  · next rest schemed =>
      rw [afterScheme_eq_some_iff] at schemed
      rcases ported : takePort (rest.dropWhile hostCharacter) with ⟨port, between⟩
      rw [ported] at matched
      dsimp only at matched
      split at matched
      · next parts =>
          rw [← Option.some.inj matched]
          refine ⟨rest.takeWhile hostCharacter, rfl,
            lineBreak_notMem_takeWhile (by decide) rest, ?_⟩
          intro portless
          refine ⟨between, parts.2, ?_⟩
          change port = none at portless
          rw [portless] at ported
          rw [takePort_none ported, List.append_assoc, List.takeWhile_append_dropWhile, schemed]
      · cases matched

end Groups

/-! ## What is read is written -/

theorem ok_of_map {Failure Value Result : Type*} {change : Value → Result}
    {attempt : Except Failure Value} {result : Result} (ended : attempt.map change = .ok result) :
    ∃ value, attempt = .ok value ∧ change value = result := by
  cases attempt with
  | error failure => cases ended
  | ok value => exact ⟨value, rfl, Except.ok.inj ended⟩

variable [TextOf]

omit [TextOf] in
theorem validateAgentId_of_isHex {agentId : List Char} (hex : isHex agentId = true) :
    validateAgentId (String.ofList agentId) = .ok () := by
  have length : (String.ofList agentId).toList.length = 64 := by
    rw [String.toList_ofList]
    rw [isHex, Bool.and_eq_true, decide_eq_true_eq] at hex
    exact hex.1
  rw [validateAgentId, if_neg fun other => other length, String.toList_ofList, if_pos hex]

omit [TextOf] in
theorem solid_last_of_strip (text : String) :
    ∀ last ∈ (strip text).toList.getLast?, isSpace last = false := by
  intro last own
  rw [strip, String.toList_ofList, List.getLast?_reverse] at own
  have first := List.head?_dropWhile_not isSpace (text.toList.dropWhile isSpace).reverse
  rw [Option.mem_def.mp own] at first
  exact first

theorem portless_of_parsePort [NumberText] {port : Option String}
    (parsed : parsePort port = .ok none) : port = none := by
  cases port with
  | none => rfl
  | some text =>
      rw [parsePort] at parsed
      split at parsed
      · cases parsed
      · split at parsed <;> cases parsed

theorem formatUri_agent (agentId : String) (host format : Option String) :
    formatUri (some agentId) none host format =
      (validateAgentId agentId).map fun _ =>
        "agtp://" ++ agentId ++ hostSuffix host ++ formatSuffix format := by
  cases host <;> rfl

theorem formatUri_of_parseUri [DecimalDigits] [NumberText] {uri : String} {parsed : ParsedUri}
    (read : parseUri uri = .ok parsed) (portless : parsed.port = none)
    (queryless : parsed.query = none) :
    formatUri parsed.agentId parsed.agentHandle parsed.host none = .ok (strip uri) := by
  have solid := solid_last_of_strip uri
  rw [parseUri] at read
  split at read
  · next found matched =>
      rcases ok_of_map read with ⟨port, ported, rfl⟩
      change port = none at portless
      rw [portless] at ported
      rcases of_matchAgentUri matched with ⟨agentId, hex, named, _, _, _, whole⟩
      rcases whole (portless_of_parsePort ported) queryless with ⟨rest, ended, spelled⟩
      rw [eq_nil_of_atEnd ended spelled solid, List.append_nil] at spelled
      rw [named, formatUri_agent, validateAgentId_of_isHex hex]
      apply congrArg Except.ok
      apply String.toList_inj.mp
      rw [spelled, formatSuffix, String.append_empty, String.toList_append,
        String.toList_append, String.toList_ofList (l := agentId)]
  · split at read
    · next found matched =>
        rcases of_matchDomainAgentUri matched with ⟨host, handle, hosted, handled, _, _, whole⟩
        rw [hosted, handled, Option.getD_some, Option.getD_some] at read
        split at read
        · cases read
        · next hostname =>
            split at read
            · cases read
            · next valid =>
                rcases ok_of_map read with ⟨port, ported, rfl⟩
                change port = none at portless
                rw [portless] at ported
                rcases whole (portless_of_parsePort ported) with ⟨rest, ended, spelled⟩
                rw [eq_nil_of_atEnd ended spelled solid, List.append_nil] at spelled
                rw [formatUri, if_neg hostname, if_neg valid]
                apply congrArg Except.ok
                apply String.toList_inj.mp
                rw [spelled, String.toList_append, String.toList_append, String.toList_append,
                  String.toList_ofList (l := host), String.toList_ofList (l := handle)]
    · split at read
      · next found matched =>
          rcases of_matchServerUri matched with ⟨host, hosted, _, whole⟩
          rw [hosted, Option.getD_some] at read
          split at read
          · cases read
          · next hostname =>
              rcases ok_of_map read with ⟨port, ported, rfl⟩
              change port = none at portless
              rw [portless] at ported
              rcases whole (portless_of_parsePort ported) with ⟨rest, ended, spelled⟩
              rw [eq_nil_of_atEnd ended spelled solid, List.append_nil] at spelled
              rw [formatUri, if_neg hostname]
              apply congrArg Except.ok
              apply String.toList_inj.mp
              rw [spelled, String.toList_append, String.toList_ofList (l := host)]
      · split at read <;> cases read

/-! ## Components -/

/-- The components that a URI is written of. -/
inductive UriComponents where
  | identity (agentId : String) (host format : Option String)
  | handle (name host : String)
  | server (host : String)

namespace UriComponents

def write : UriComponents → Except AgentIdError String
  | identity agentId host format => formatUri (some agentId) none host format
  | handle name host => formatUri none (some name) (some host) none
  | server host => formatUri none none (some host) none

def form : UriComponents → String
  | identity _ (some _) _ => "1a"
  | identity _ none _ => "1"
  | handle _ host => if ParsedUri.isSubdomain host then "4" else "3"
  | server _ => "2"

/-- Just these components were read, and no port. -/
structure Recovered (components : UriComponents) (parsed : ParsedUri) : Prop where
  agentId : parsed.agentId = match components with
    | identity agentId _ _ => some agentId
    | _ => none
  agentHandle : parsed.agentHandle = match components with
    | handle name _ => some name
    | _ => none
  host : parsed.host = match components with
    | identity _ host _ => host
    | handle _ host => some host
    | server host => some host
  port : parsed.port = none
  form : parsed.form = components.form
  format : parsed.formatParam = match components with
    | identity _ _ format => format
    | _ => none

/-- Components that the text keeps apart: an explicit host is of host characters, a format
is not empty, has no ampersand and no line break and does not end with white space, and
neither a host nor a handle has a line break. -/
def Clean : UriComponents → Prop
  | identity _ host format =>
      (∀ name ∈ host, name ≠ "" ∧ name.toList.all hostCharacter = true) ∧
        ∀ value ∈ format, value ≠ "" ∧ '&' ∉ value.toList ∧ '\n' ∉ value.toList ∧
          ∀ last ∈ value.toList.getLast?, isSpace last = false
  | handle name host => '\n' ∉ name.toList ∧ '\n' ∉ host.toList
  | server host => '\n' ∉ host.toList

end UriComponents

/-! ## What is written is read -/

section Spans

omit [TextOf] in
theorem stops_nil {test : Char → Bool} :
    ∀ next ∈ ([] : List Char).head?, test next = false :=
  nofun

omit [TextOf] in
theorem takeWhile_written {test : Char → Bool} {front rest : List Char}
    (all : front.all test = true) (stops : ∀ next ∈ rest.head?, test next = false) :
    (front ++ rest).takeWhile test = front := by
  rw [List.takeWhile_append_of_pos (List.all_eq_true.mp all)]
  cases rest with
  | nil => exact List.append_nil front
  | cons next rest => rw [List.takeWhile_cons, stops next rfl]; exact List.append_nil front

omit [TextOf] in
theorem dropWhile_written {test : Char → Bool} {front rest : List Char}
    (all : front.all test = true) (stops : ∀ next ∈ rest.head?, test next = false) :
    (front ++ rest).dropWhile test = rest := by
  rw [List.dropWhile_append_of_pos (List.all_eq_true.mp all)]
  cases rest with
  | nil => rfl
  | cons next rest => rw [List.dropWhile_cons, stops next rfl]; rfl

end Spans

section Matches

variable [DecimalDigits]

omit [TextOf] in
theorem takeHost_written {host : Option String} {tail : List Char}
    (clean : ∀ name ∈ host, name ≠ "" ∧ name.toList.all hostCharacter = true)
    (stops : ∀ next ∈ tail.head?, hostCharacter next = false ∧ next ≠ ':' ∧ next ≠ '@') :
    takeHost ((hostSuffix host).toList ++ tail) = (host, none, tail) := by
  cases host with
  | none =>
      rw [hostSuffix, String.toList_empty, List.nil_append, takeHost.eq_def]
      split
      · exact absurd rfl (stops '@' rfl).2.2
      · rfl
  | some name =>
      rcases clean name rfl with ⟨filled, all⟩
      have nonempty : name.toList ≠ [] := by
        rwa [ne_eq, String.toList_eq_nil_iff]
      have ends : ∀ next ∈ tail.head?, hostCharacter next = false :=
        fun next own => (stops next own).1
      have portless : takePort tail = (none, tail) :=
        takePort_of_head fun colon => (stops ':' colon).2.1 rfl
      rw [hostSuffix, if_neg filled, String.toList_append]
      change takeHost ('@' :: (name.toList ++ tail)) = _
      rw [takeHost, takeWhile_written all ends, dropWhile_written all ends, if_neg nonempty,
        portless, String.ofList_toList]

omit [TextOf] [DecimalDigits] in
theorem takeQuery_written {query : List Char} (oneLine : '\n' ∉ query) :
    takeQuery ('?' :: query) = (some (String.ofList query), []) := by
  have all : query.all (fun character => decide (character ≠ '\n')) = true := by
    rw [List.all_eq_true]
    intro character member
    rw [decide_eq_true_eq]
    rintro rfl
    exact oneLine member
  have taken := takeWhile_written all stops_nil
  have dropped := dropWhile_written all stops_nil
  rw [List.append_nil] at taken dropped
  rw [takeQuery, taken, dropped]

def querySuffix : Option (List Char) → List Char
  | some query => '?' :: query
  | none => []

omit [TextOf] in
theorem matchAgentUri_written {agentId : List Char} (hex : isHex agentId = true)
    {host : Option String} {query : Option (List Char)}
    (clean : ∀ name ∈ host, name ≠ "" ∧ name.toList.all hostCharacter = true)
    (oneLine : ∀ written ∈ query, '\n' ∉ written) :
    matchAgentUri ("agtp://".toList ++ (agentId ++ ((hostSuffix host).toList ++
      querySuffix query))) =
      some ⟨some (String.ofList agentId), host, none, none, query.map String.ofList⟩ := by
  have length : agentId.length = 64 := by
    rw [isHex, Bool.and_eq_true, decide_eq_true_eq] at hex
    exact hex.1
  have located : takeHost ((hostSuffix host).toList ++ querySuffix query) =
      (host, none, querySuffix query) := by
    apply takeHost_written clean
    intro next own
    cases query with
    | none => cases own
    | some written =>
        rw [← Option.some.inj own]
        decide
  have queried : takeQuery (querySuffix query) = (query.map String.ofList, []) := by
    cases query with
    | none => rfl
    | some written => exact takeQuery_written (oneLine written rfl)
  rw [matchAgentUri, afterScheme_eq_some_iff.mpr rfl]
  dsimp only
  rw [List.take_left' length, List.drop_left' length, if_pos hex, located]
  dsimp only
  rw [queried]
  rfl

end Matches

/-! ### Host names and handles -/

omit [TextOf] in
theorem beforeEnd_of_notMem {text : List Char} (oneLine : '\n' ∉ text) :
    beforeEnd text = text := by
  rw [beforeEnd]
  apply if_neg
  intro last
  exact oneLine (List.mem_of_getLast? last)

omit [TextOf] in
theorem hostCharacter_of_label {label : List Char} (valid : isHostLabel label = true)
    {character : Char} (member : character ∈ label) : hostCharacter character = true := by
  rw [isHostLabel, Bool.and_eq_true, Bool.and_eq_true, Bool.and_eq_true] at valid
  have kind := List.all_eq_true.mp valid.1.1.2 character member
  rw [Bool.or_eq_true] at kind
  rw [hostCharacter]
  rcases kind with alphanumeric | hyphen
  · rw [alphanumeric]
    rfl
  · rw [hyphen, Bool.or_true]

omit [TextOf] in
theorem mem_part_of_mem {separator character : Char} (other : character ≠ separator)
    {text : List Char} (member : character ∈ text) :
    ∃ part ∈ Text.splitCharacters separator text, character ∈ part := by
  induction text with
  | nil => cases member
  | cons first rest induction =>
      rw [Text.splitCharacters]
      split
      · next same =>
          rcases List.mem_cons.mp member with own | later
          · exact absurd (own.trans same) other
          · rcases induction later with ⟨part, among, found⟩
            exact ⟨part, List.mem_cons_of_mem _ among, found⟩
      · split
        · next nothing => exact absurd nothing (Text.splitCharacters_ne_nil separator rest)
        · next part parts parted =>
            rcases List.mem_cons.mp member with own | later
            · exact ⟨_, List.mem_cons_self, own ▸ List.mem_cons_self⟩
            · rcases induction later with ⟨holder, among, found⟩
              rw [parted] at among
              rcases List.mem_cons.mp among with head | tail
              · exact ⟨_, List.mem_cons_self, List.mem_cons_of_mem _ (head ▸ found)⟩
              · exact ⟨holder, List.mem_cons_of_mem _ tail, found⟩

omit [TextOf] in
theorem of_mem_part {separator character : Char} {text part : List Char}
    (among : part ∈ Text.splitCharacters separator text) (member : character ∈ part) :
    character ≠ separator ∧ character ∈ text := by
  induction text generalizing part with
  | nil =>
      rw [List.mem_singleton.mp among] at member
      cases member
  | cons first rest induction =>
      have later {holder : List Char} (within : holder ∈ Text.splitCharacters separator rest)
          (found : character ∈ holder) : character ≠ separator ∧ character ∈ first :: rest := by
        rcases induction within found with ⟨other, inRest⟩
        exact ⟨other, List.mem_cons_of_mem first inRest⟩
      rw [Text.splitCharacters] at among
      split at among
      · rcases List.mem_cons.mp among with rfl | within
        · cases member
        · exact later within member
      · next other =>
          split at among
          · rw [List.mem_singleton.mp among, List.mem_singleton] at member
            rw [member]
            exact ⟨other, List.mem_cons_self⟩
          · next head parts parted =>
              rcases List.mem_cons.mp among with rfl | within
              · rcases List.mem_cons.mp member with rfl | inHead
                · exact ⟨other, List.mem_cons_self⟩
                · exact later (parted ▸ List.mem_cons_self) inHead
              · exact later (parted ▸ List.mem_cons_of_mem head within) member

omit [TextOf] in
theorem exists_part_of_front {separator : Char} {front : List Char} (plain : separator ∉ front)
    (rest : List Char) :
    ∃ part ∈ Text.splitCharacters separator (front ++ rest), front.length ≤ part.length := by
  suffices ∃ part parts, Text.splitCharacters separator (front ++ rest) = part :: parts ∧
      front.length ≤ part.length by
    rcases this with ⟨part, parts, parted, long⟩
    exact ⟨part, parted ▸ List.mem_cons_self, long⟩
  induction front with
  | nil =>
      rcases List.exists_cons_of_ne_nil (Text.splitCharacters_ne_nil separator ([] ++ rest)) with
        ⟨part, parts, parted⟩
      exact ⟨part, parts, parted, Nat.zero_le _⟩
  | cons first front induction =>
      rw [List.mem_cons, not_or] at plain
      rcases induction plain.2 with ⟨part, parts, parted, long⟩
      rw [List.cons_append, Text.splitCharacters, if_neg (Ne.symm plain.1), parted]
      exact ⟨first :: part, parts, rfl, Nat.succ_le_succ long⟩

omit [TextOf] in
theorem of_isHostname {host : String} (hostname : isHostname host = true)
    (oneLine : '\n' ∉ host.toList) :
    host.toList.all hostCharacter = true ∧ host.toList ≠ [] ∧
      ∀ label ∈ Text.splitCharacters '.' host.toList, label.length ≤ 63 := by
  rw [isHostname, beforeEnd_of_notMem oneLine, List.all_eq_true] at hostname
  refine ⟨?_, ?_, ?_⟩
  · rw [List.all_eq_true]
    intro character member
    by_cases dot : character = '.'
    · rw [dot]
      decide
    · rcases mem_part_of_mem dot member with ⟨label, among, found⟩
      exact hostCharacter_of_label (hostname label among) found
  · intro empty
    rw [empty] at hostname
    exact absurd (hostname [] List.mem_cons_self) (by decide)
  · intro label among
    have valid := hostname label among
    rw [isHostLabel, Bool.and_eq_true, Bool.and_eq_true, Bool.and_eq_true,
      decide_eq_true_eq] at valid
    exact valid.1.1.1

omit [TextOf] in
theorem of_isHandle {handle : String} (valid : isHandle handle = true)
    (oneLine : '\n' ∉ handle.toList) :
    handle.toList.all handleCharacter = true ∧ handle.toList.head?.any isAlphanumeric = true := by
  rw [isHandle, beforeEnd_of_notMem oneLine, Bool.and_eq_true] at valid
  exact ⟨valid.2, valid.1⟩

omit [TextOf] in
theorem not_isHex_of_isHostname {host : String} (hostname : isHostname host = true)
    (oneLine : '\n' ∉ host.toList) {tail : List Char}
    (stops : ∀ next ∈ tail.head?, hexCharacter next = false) :
    isHex ((host.toList ++ tail).take 64) = false := by
  rw [Bool.eq_false_iff]
  intro hex
  rw [isHex, Bool.and_eq_true, decide_eq_true_eq, List.all_eq_true] at hex
  rcases hex with ⟨length, all⟩
  rcases Nat.lt_or_ge host.toList.length 64 with short | long
  · cases tail with
    | nil =>
        rw [List.append_nil, List.length_take] at length
        omega
    | cons next tail =>
        have member : next ∈ (host.toList ++ next :: tail).take 64 := by
          rw [List.take_append, List.mem_append]
          apply Or.inr
          obtain ⟨more, same⟩ : ∃ more, 64 - host.toList.length = more + 1 :=
            ⟨63 - host.toList.length, by omega⟩
          rw [same, List.take_succ_cons]
          exact List.mem_cons_self
        have hexNext := all next member
        rw [stops next rfl] at hexNext
        cases hexNext
  · rw [List.take_append_of_le_length long] at all
    have plain : '.' ∉ host.toList.take 64 := fun dot => absurd (all '.' dot) (by decide)
    rcases exists_part_of_front plain (host.toList.drop 64) with ⟨label, among, longer⟩
    rw [List.take_append_drop] at among
    have short := (of_isHostname hostname oneLine).2.2 label among
    rw [List.length_take] at longer
    omega

/-! ### White space -/

omit [TextOf] in
theorem isSpace_of_between {character : Char} (low : 33 ≤ character.toNat)
    (high : character.toNat ≤ 126) : isSpace character = false := by
  simp only [isSpace, Bool.or_eq_false_iff, Bool.and_eq_false_iff, decide_eq_false_iff_not,
    beq_eq_false_iff_ne]
  omega

omit [TextOf] in
theorem between_of_le {low high character : Char} (least : 33 ≤ low.toNat)
    (most : high.toNat ≤ 126)
    (within : (decide (low ≤ character) && decide (character ≤ high)) = true) :
    33 ≤ character.toNat ∧ character.toNat ≤ 126 := by
  rw [Bool.and_eq_true, decide_eq_true_eq, decide_eq_true_eq, Char.le_def, Char.le_def,
    UInt32.le_iff_toNat_le, UInt32.le_iff_toNat_le] at within
  exact ⟨least.trans within.1, within.2.trans most⟩

omit [TextOf] in
theorem solid_of_isAlphanumeric {character : Char} (kind : isAlphanumeric character = true) :
    isSpace character = false := by
  rw [isAlphanumeric, Bool.or_eq_true, Bool.or_eq_true] at kind
  have between : 33 ≤ character.toNat ∧ character.toNat ≤ 126 := by
    rcases kind with (upper | lower) | digit
    · exact between_of_le (by decide) (by decide) upper
    · exact between_of_le (by decide) (by decide) lower
    · exact between_of_le (by decide) (by decide) digit
  exact isSpace_of_between between.1 between.2

omit [TextOf] in
theorem solid_of_hostCharacter {character : Char} (kind : hostCharacter character = true) :
    isSpace character = false := by
  rw [hostCharacter, Bool.or_eq_true, Bool.or_eq_true, decide_eq_true_eq,
    decide_eq_true_eq] at kind
  rcases kind with (alphanumeric | rfl) | rfl
  · exact solid_of_isAlphanumeric alphanumeric
  · decide
  · decide

omit [TextOf] in
theorem solid_of_handleCharacter {character : Char} (kind : handleCharacter character = true) :
    isSpace character = false := by
  rw [handleCharacter, Bool.or_eq_true, Bool.or_eq_true, Bool.or_eq_true, decide_eq_true_eq,
    decide_eq_true_eq, decide_eq_true_eq] at kind
  rcases kind with ((alphanumeric | rfl) | rfl) | rfl
  · exact solid_of_isAlphanumeric alphanumeric
  all_goals decide

omit [TextOf] in
theorem solid_of_hexCharacter {character : Char} (kind : hexCharacter character = true) :
    isSpace character = false := by
  rw [hexCharacter, Bool.or_eq_true] at kind
  have between : 33 ≤ character.toNat ∧ character.toNat ≤ 126 := by
    rcases kind with digit | letter
    · exact between_of_le (by decide) (by decide) digit
    · exact between_of_le (by decide) (by decide) letter
  exact isSpace_of_between between.1 between.2

omit [TextOf] in
theorem strip_uri {uri : String} {rest : List Char}
    (whole : uri.toList = "agtp://".toList ++ rest) :
    (strip uri).toList = "agtp://".toList ++ trimmed rest := by
  have scheme : isSpace '/' = false := by decide
  have spelled : uri = String.ofList ('a' :: ("gtp:/".toList ++ '/' :: rest)) := by
    rw [← String.ofList_toList (s := uri), whole]
    rfl
  rw [spelled, strip_of_head (by decide)]
  exact trimmed_append ('a' :: "gtp:/".toList) scheme rest

/-! ### The three patterns -/

section Written

variable [DecimalDigits]

omit [TextOf] in
theorem matchDomainAgentUri_written {host handle : List Char} (named : host ≠ [])
    (hostAll : host.all hostCharacter = true) (handleAll : handle.all handleCharacter = true)
    (first : handle.head?.any isAlphanumeric = true) :
    matchDomainAgentUri ("agtp://".toList ++ (host ++ ("/agents/".toList ++ handle))) =
      some ⟨none, some (String.ofList host), none, some (String.ofList handle), none⟩ := by
  have stops : ∀ next ∈ ("/agents/".toList ++ handle).head?, hostCharacter next = false := by
    intro next own
    rw [← Option.some.inj own]
    decide
  have portless : takePort ("/agents/".toList ++ handle) =
      (none, "/agents/".toList ++ handle) := takePort_of_head (by
    intro colon
    cases colon)
  have taken := takeWhile_written handleAll stops_nil
  have dropped := dropWhile_written handleAll stops_nil
  rw [List.append_nil] at taken dropped
  rw [matchDomainAgentUri, afterScheme_eq_some_iff.mpr rfl]
  dsimp only
  rw [takeWhile_written hostAll stops, dropWhile_written hostAll stops, portless]
  dsimp only
  rw [afterAgents_eq_some_iff.mpr rfl]
  dsimp only
  rw [taken, dropped, if_pos ⟨named, first, rfl⟩]

omit [TextOf] in
theorem matchServerUri_written {host : List Char} (named : host ≠ [])
    (all : host.all hostCharacter = true) :
    matchDomainAgentUri ("agtp://".toList ++ host) = none ∧
      matchServerUri ("agtp://".toList ++ host) =
        some ⟨none, some (String.ofList host), none, none, none⟩ := by
  have taken := takeWhile_written all stops_nil
  have dropped := dropWhile_written all stops_nil
  rw [List.append_nil] at taken dropped
  constructor
  · rw [matchDomainAgentUri, afterScheme_eq_some_iff.mpr rfl]
    dsimp only
    rw [dropped]
    rfl
  · rw [matchServerUri, afterScheme_eq_some_iff.mpr rfl]
    dsimp only
    rw [taken, dropped]
    exact if_pos ⟨named, rfl⟩

omit [TextOf] in
theorem matchAgentUri_none {rest : List Char} (other : isHex (rest.take 64) = false) :
    matchAgentUri ("agtp://".toList ++ rest) = none := by
  rw [matchAgentUri, afterScheme_eq_some_iff.mpr rfl]
  dsimp only
  rw [other]
  rfl

variable [NumberText]

theorem parseUri_server {host : String} (hostname : isHostname host = true)
    (oneLine : '\n' ∉ host.toList) :
    parseUri ("agtp://" ++ host) = .ok ⟨none, none, some host, none, none⟩ := by
  rcases of_isHostname hostname oneLine with ⟨all, named, _⟩
  have solid : ∀ character ∈ host.toList, isSpace character = false :=
    fun character member => solid_of_hostCharacter (List.all_eq_true.mp all character member)
  have text : (strip ("agtp://" ++ host)).toList = "agtp://".toList ++ host.toList := by
    rw [strip_uri String.toList_append, trimmed_of_solid solid]
  have other : isHex (host.toList.take 64) = false := by
    have apart := not_isHex_of_isHostname hostname oneLine stops_nil
    rwa [List.append_nil] at apart
  rw [parseUri, text, matchAgentUri_none other]
  dsimp only
  rw [(matchServerUri_written named all).1, (matchServerUri_written named all).2]
  dsimp only
  rw [Option.getD_some, String.ofList_toList, if_neg fun bad => bad hostname]
  rfl

theorem parseUri_handle {name host : String} (hostname : isHostname host = true)
    (hostLine : '\n' ∉ host.toList) (valid : isHandle name = true)
    (nameLine : '\n' ∉ name.toList) :
    parseUri ("agtp://" ++ host ++ "/agents/" ++ name) =
      .ok ⟨none, some name, some host, none, none⟩ := by
  rcases of_isHostname hostname hostLine with ⟨hostAll, named, _⟩
  rcases of_isHandle valid nameLine with ⟨nameAll, first⟩
  have spelled : ("agtp://" ++ host ++ "/agents/" ++ name).toList =
      "agtp://".toList ++ (host.toList ++ ("/agents/".toList ++ name.toList)) := by
    simp only [String.toList_append, List.append_assoc]
  have solid : ∀ character ∈ host.toList ++ ("/agents/".toList ++ name.toList),
      isSpace character = false := by
    intro character member
    rcases List.mem_append.mp member with inHost | later
    · exact solid_of_hostCharacter (List.all_eq_true.mp hostAll character inHost)
    · rcases List.mem_append.mp later with inPath | inName
      · have plain : ∀ letter ∈ "/agents/".toList, isSpace letter = false :=
          Text.forall_mem_of_all (by decide)
        exact plain character inPath
      · exact solid_of_handleCharacter (List.all_eq_true.mp nameAll character inName)
  have slash : ∀ next ∈ ("/agents/".toList ++ name.toList).head?, hexCharacter next = false := by
    intro next own
    rw [← Option.some.inj own]
    decide
  rw [parseUri, strip_uri spelled, trimmed_of_solid solid,
    matchAgentUri_none (not_isHex_of_isHostname hostname hostLine slash)]
  dsimp only
  rw [matchDomainAgentUri_written named hostAll nameAll first]
  dsimp only
  rw [Option.getD_some, Option.getD_some, String.ofList_toList, String.ofList_toList,
    if_neg fun bad => bad hostname, if_neg fun bad => bad valid]
  rfl

def queryOf : Option String → Option (List Char)
  | some format => if format = "" then none else some ("format=".toList ++ trimmed format.toList)
  | none => none

omit [DecimalDigits] [NumberText] [TextOf] in
theorem solid_of_identity {agentId : List Char} (hex : isHex agentId = true)
    {host : Option String}
    (clean : ∀ name ∈ host, name ≠ "" ∧ name.toList.all hostCharacter = true) :
    ∀ character ∈ agentId ++ (hostSuffix host).toList, isSpace character = false := by
  rw [isHex, Bool.and_eq_true, List.all_eq_true] at hex
  intro character member
  rcases List.mem_append.mp member with inId | inHost
  · exact solid_of_hexCharacter (hex.2 character inId)
  · cases host with
    | none => cases inHost
    | some name =>
        rcases clean name rfl with ⟨filled, all⟩
        rw [hostSuffix, if_neg filled, String.toList_append] at inHost
        rcases List.mem_cons.mp inHost with rfl | inName
        · decide
        · exact solid_of_hostCharacter (List.all_eq_true.mp all character inName)

theorem parseUri_identity {agentId : String} (hex : isHex agentId.toList = true)
    {host format : Option String}
    (clean : ∀ name ∈ host, name ≠ "" ∧ name.toList.all hostCharacter = true)
    (oneLine : ∀ query ∈ queryOf format, '\n' ∉ query) :
    parseUri ("agtp://" ++ agentId ++ hostSuffix host ++ formatSuffix format) =
      .ok ⟨some agentId, none, host, none, (queryOf format).map String.ofList⟩ := by
  have spelled : ("agtp://" ++ agentId ++ hostSuffix host ++ formatSuffix format).toList =
      "agtp://".toList ++ (agentId.toList ++ ((hostSuffix host).toList ++
        (formatSuffix format).toList)) := by
    simp only [String.toList_append, List.append_assoc]
  have text : trimmed (agentId.toList ++ ((hostSuffix host).toList ++
      (formatSuffix format).toList)) =
        agentId.toList ++ ((hostSuffix host).toList ++ querySuffix (queryOf format)) := by
    rw [← List.append_assoc, ← List.append_assoc]
    by_cases written : ∃ value, format = some value ∧ value ≠ ""
    · rcases written with ⟨value, rfl, filled⟩
      have parted : (formatSuffix (some value)).toList =
          "?format".toList ++ '=' :: value.toList := by
        rw [formatSuffix, if_neg filled, String.toList_append]
        rfl
      rw [parted, queryOf, if_neg filled, ← List.append_assoc,
        trimmed_append _ (by decide : isSpace '=' = false), List.append_assoc]
      rfl
    · have nothing : (formatSuffix format).toList = [] ∧ queryOf format = none := by
        cases format with
        | none => exact ⟨rfl, rfl⟩
        | some value =>
            have empty : value = "" := by
              by_contra filled
              exact written ⟨value, rfl, filled⟩
            rw [formatSuffix, queryOf, if_pos empty, if_pos empty]
            exact ⟨rfl, rfl⟩
      rw [nothing.1, nothing.2, querySuffix, List.append_nil]
      exact trimmed_of_solid (solid_of_identity hex clean)
  rw [parseUri, strip_uri spelled, text, matchAgentUri_written hex clean oneLine]
  dsimp only
  rw [String.ofList_toList]
  rfl

end Written

/-! ## The codec -/

section Codec

open ParsedUri

omit [TextOf] in
theorem of_formatParam {parsed : ParsedUri} {format : String}
    (read : parsed.formatParam = some format) :
    '&' ∉ format.toList ∧ ∃ query, parsed.query = some query ∧
      ∀ character ∈ format.toList, character ∈ query.toList := by
  rw [formatParam] at read
  split at read
  · cases read
  · next query queried =>
      split at read
      · cases read
      · rcases List.exists_of_findSome?_eq_some read with ⟨pair, among, taken⟩
        split at taken
        · rcases List.mem_map.mp among with ⟨part, within, rfl⟩
          rw [← Option.some.inj taken, String.toList_ofList, String.toList_ofList]
          constructor
          · intro ampersand
            exact (of_mem_part within (List.mem_of_mem_drop ampersand)).1 rfl
          · refine ⟨query, queried, fun character member => ?_⟩
            exact (of_mem_part within (List.mem_of_mem_drop member)).2
        · cases taken

omit [TextOf] in
theorem formatParam_written {parsed : ParsedUri} {format : List Char} (plain : '&' ∉ format)
    (query : parsed.query = some (String.ofList ("format=".toList ++ format))) :
    parsed.formatParam = some (String.ofList format) := by
  have whole : '&' ∉ "format=".toList ++ format := by
    rw [List.mem_append, not_or]
    exact ⟨by decide, plain⟩
  have filled : String.ofList ("format=".toList ++ format) ≠ "" := by
    intro empty
    have nothing := congrArg String.toList empty
    rw [String.toList_ofList (l := "format=".toList ++ format)] at nothing
    cases nothing
  have parts : Text.split '&' (String.ofList ("format=".toList ++ format)) =
      [String.ofList ("format=".toList ++ format)] := by
    rw [Text.split, String.toList_ofList (l := "format=".toList ++ format),
      Text.splitCharacters_of_notMem whole, List.map_singleton]
  rw [formatParam, query]
  dsimp only
  rw [if_neg filled, parts, List.findSome?_cons,
    String.toList_ofList (l := "format=".toList ++ format)]
  rfl

omit [TextOf] in
theorem mem_of_mem_trimmed {text : List Char} {character : Char}
    (member : character ∈ trimmed text) : character ∈ text := by
  rw [trimmed, List.mem_reverse] at member
  exact List.mem_reverse.mp ((List.dropWhile_suffix isSpace).mem member)

variable [DecimalDigits] [NumberText]

/-- Of an agent URI the host and the query are as their groups say, and of any other URI the
parts are on one line. -/
theorem of_parseUri {uri : String} {parsed : ParsedUri} (read : parseUri uri = .ok parsed) :
    (parsed.agentId ≠ none →
        (∀ name ∈ parsed.host, name ≠ "" ∧ name.toList.all hostCharacter = true) ∧
          ∀ query ∈ parsed.query, '\n' ∉ query.toList) ∧
      (parsed.agentId = none →
        (∀ host ∈ parsed.host, '\n' ∉ host.toList) ∧
          ∀ handle ∈ parsed.agentHandle, '\n' ∉ handle.toList) := by
  rw [parseUri] at read
  split at read
  · next found matched =>
      rcases ok_of_map read with ⟨port, _, rfl⟩
      rcases of_matchAgentUri matched with ⟨agentId, _, named, _, host, query, _⟩
      constructor
      · exact fun _ => ⟨host, query⟩
      · intro absent
        rw [named] at absent
        cases absent
  · split at read
    · next found matched =>
        rcases of_matchDomainAgentUri matched with
          ⟨host, handle, hosted, handled, hostLine, handleLine, _⟩
        split at read
        · cases read
        · split at read
          · cases read
          · rcases ok_of_map read with ⟨port, _, rfl⟩
            refine ⟨fun present => absurd rfl present, fun _ => ⟨?_, ?_⟩⟩
            · intro name own
              rw [hosted] at own
              rwa [← Option.some.inj own, String.toList_ofList]
            · intro name own
              rw [handled] at own
              rwa [← Option.some.inj own, String.toList_ofList]
    · split at read
      · next found matched =>
          rcases of_matchServerUri matched with ⟨host, hosted, hostLine, _⟩
          split at read
          · cases read
          · rcases ok_of_map read with ⟨port, _, rfl⟩
            refine ⟨fun present => absurd rfl present, fun _ => ⟨?_, nofun⟩⟩
            intro name own
            rw [hosted] at own
            rwa [← Option.some.inj own, String.toList_ofList]
      · split at read <;> cases read

namespace UriComponents

omit [DecimalDigits] [NumberText] in
theorem of_write_identity {agentId uri : String} {host format : Option String}
    (accepted : (identity agentId host format).write = .ok uri) :
    isHex agentId.toList = true ∧
      uri = "agtp://" ++ agentId ++ hostSuffix host ++ formatSuffix format := by
  rw [write, formatUri_agent] at accepted
  rcases ok_of_map accepted with ⟨_, validated, rfl⟩
  refine ⟨?_, rfl⟩
  rw [validateAgentId] at validated
  split at validated
  · cases validated
  · split at validated
    · next hex => exact hex
    · cases validated

omit [DecimalDigits] [NumberText] in
theorem of_write_handle {name host uri : String} (accepted : (handle name host).write = .ok uri) :
    isHostname host = true ∧ isHandle name = true ∧
      uri = "agtp://" ++ host ++ "/agents/" ++ name := by
  rw [write, formatUri] at accepted
  split at accepted
  · cases accepted
  · next hostname =>
      split at accepted
      · cases accepted
      · next valid =>
          exact ⟨not_not.mp hostname, not_not.mp valid, (Except.ok.inj accepted).symm⟩

omit [DecimalDigits] [NumberText] in
theorem of_write_server {host uri : String} (accepted : (server host).write = .ok uri) :
    isHostname host = true ∧ uri = "agtp://" ++ host := by
  rw [write, formatUri] at accepted
  split at accepted
  · cases accepted
  · next hostname => exact ⟨not_not.mp hostname, (Except.ok.inj accepted).symm⟩

theorem clean_format {agentId : String} (hex : isHex agentId.toList = true)
    {host : Option String} {value : String}
    (clean : ∀ name ∈ host, name ≠ "" ∧ name.toList.all hostCharacter = true)
    {parsed : ParsedUri}
    (read : parseUri ("agtp://" ++ agentId ++ hostSuffix host ++ formatSuffix (some value)) =
      .ok parsed)
    (oneLine : ∀ query ∈ parsed.query, '\n' ∉ query.toList)
    (kept : parsed.formatParam = some value) :
    value ≠ "" ∧ '&' ∉ value.toList ∧ '\n' ∉ value.toList ∧
      ∀ last ∈ value.toList.getLast?, isSpace last = false := by
  rcases of_formatParam kept with ⟨ampersand, query, queried, within⟩
  have lineBreak : '\n' ∉ value.toList :=
    fun member => oneLine query queried (within '\n' member)
  have written : ∀ query ∈ queryOf (some value), '\n' ∉ query := by
    intro query own member
    rw [queryOf] at own
    split at own
    · cases own
    · rw [← Option.some.inj own] at member
      rcases List.mem_append.mp member with inKey | inValue
      · exact absurd inKey (by decide)
      · exact lineBreak (mem_of_mem_trimmed inValue)
  rw [parseUri_identity hex clean written] at read
  rw [← Except.ok.inj read] at kept
  by_cases filled : value = ""
  · rw [queryOf, if_pos filled] at kept
    cases kept
  · refine ⟨filled, ampersand, lineBreak, (trimmed_eq_self_iff value.toList).mp ?_⟩
    rw [queryOf, if_neg filled, Option.map_some,
      formatParam_written (fun member => ampersand (mem_of_mem_trimmed member)) rfl] at kept
    have same := congrArg String.toList (Option.some.inj kept)
    rwa [String.toList_ofList] at same

theorem recovered_identity_iff {agentId uri : String} {host format : Option String}
    (accepted : (identity agentId host format).write = .ok uri) :
    (∃ parsed, parseUri uri = .ok parsed ∧ (identity agentId host format).Recovered parsed) ↔
      (identity agentId host format).Clean := by
  rcases of_write_identity accepted with ⟨hex, rfl⟩
  constructor
  · intro ⟨parsed, read, recovered⟩
    have known : parsed.agentId ≠ none := by
      rw [recovered.agentId]
      nofun
    rcases (of_parseUri read).1 known with ⟨clean, oneLine⟩
    rw [recovered.host] at clean
    refine ⟨clean, fun value own => ?_⟩
    cases own
    exact clean_format hex clean read oneLine recovered.format
  · intro ⟨clean, cleanFormat⟩
    have written : ∀ query ∈ queryOf format, '\n' ∉ query := by
      intro query own member
      cases format with
      | none => cases own
      | some value =>
          rcases cleanFormat value rfl with ⟨filled, _, lineBreak, _⟩
          rw [queryOf, if_neg filled] at own
          rw [← Option.some.inj own] at member
          rcases List.mem_append.mp member with inKey | inValue
          · exact absurd inKey (by decide)
          · exact lineBreak (mem_of_mem_trimmed inValue)
    refine ⟨_, parseUri_identity hex clean written, rfl, rfl, rfl, rfl, ?_, ?_⟩
    · cases host <;> rfl
    · cases format with
      | none => rfl
      | some value =>
          rcases cleanFormat value rfl with ⟨filled, ampersand, _, ends⟩
          rw [queryOf, if_neg filled, (trimmed_eq_self_iff value.toList).mpr ends,
            formatParam_written ampersand rfl, String.ofList_toList]

theorem recovered_handle_iff {name host uri : String}
    (accepted : (handle name host).write = .ok uri) :
    (∃ parsed, parseUri uri = .ok parsed ∧ (handle name host).Recovered parsed) ↔
      (handle name host).Clean := by
  rcases of_write_handle accepted with ⟨hostname, valid, rfl⟩
  constructor
  · intro ⟨parsed, read, recovered⟩
    rcases (of_parseUri read).2 recovered.agentId with ⟨hostLine, handleLine⟩
    exact ⟨handleLine name recovered.agentHandle, hostLine host recovered.host⟩
  · intro ⟨nameLine, hostLine⟩
    exact ⟨_, parseUri_handle hostname hostLine valid nameLine, rfl, rfl, rfl, rfl, rfl, rfl⟩

theorem recovered_server_iff {host uri : String} (accepted : (server host).write = .ok uri) :
    (∃ parsed, parseUri uri = .ok parsed ∧ (server host).Recovered parsed) ↔
      (server host).Clean := by
  rcases of_write_server accepted with ⟨hostname, rfl⟩
  constructor
  · intro ⟨parsed, read, recovered⟩
    exact ((of_parseUri read).2 recovered.agentId).1 host recovered.host
  · intro oneLine
    exact ⟨_, parseUri_server hostname oneLine, rfl, rfl, rfl, rfl, rfl, rfl⟩

/-- Components are read back from what is written of them exactly if the text keeps them
apart, and what is read of a text without port and query is written as that text. -/
theorem uri_codec :
    (∀ (components : UriComponents) (uri : String), components.write = .ok uri →
      ((∃ parsed, parseUri uri = .ok parsed ∧ components.Recovered parsed) ↔
        components.Clean)) ∧
    ∀ (uri : String) (parsed : ParsedUri), parseUri uri = .ok parsed → parsed.port = none →
      parsed.query = none →
        formatUri parsed.agentId parsed.agentHandle parsed.host none = .ok (strip uri) := by
  constructor
  · intro components uri accepted
    cases components with
    | identity agentId host format => exact recovered_identity_iff accepted
    | handle name host => exact recovered_handle_iff accepted
    | server host => exact recovered_server_iff accepted
  · exact fun _ _ => formatUri_of_parseUri

end UriComponents

end Codec

end Agtp.Ids

/-! ## Samples -/

namespace Agtp.Ids.UriSamples

open Text (strip)

open scoped Plain PlainServing

scoped instance : DecimalDigits where
  isDecimal := Char.isDigit

def agent : String := "aaaaaaaaaaaaaaaaaaaaaaaaaaaaaaaaaaaaaaaaaaaaaaaaaaaaaaaaaaaaaaaa"

def ported : UriComponents := .identity agent (some "example.com:80") none

theorem ported_not_recovered :
    ported.write = .ok ("agtp://" ++ agent ++ "@example.com:80") ∧
      ¬∃ parsed, parseUri ("agtp://" ++ agent ++ "@example.com:80") = .ok parsed ∧
        ported.Recovered parsed := by
  refine ⟨rfl, ?_⟩
  intro ⟨parsed, read, recovered⟩
  have known : parsed.agentId ≠ none := by
    rw [recovered.agentId]
    nofun
  have clean := ((of_parseUri read).1 known).1 "example.com:80" recovered.host
  exact absurd clean.2 (by decide)

def homed : UriComponents := .identity agent (some "example.com") (some "json")

theorem homed_recovered_iff :
    ((∃ parsed, parseUri ("agtp://" ++ agent ++ "@example.com?format=json") = .ok parsed ∧
      homed.Recovered parsed) ↔ homed.Clean) ∧
    formatUri none (some "bob") (some "agtp.example.com") none =
      .ok (strip " agtp://agtp.example.com/agents/bob\n") :=
  ⟨UriComponents.uri_codec.1 homed _ rfl,
    UriComponents.uri_codec.2 " agtp://agtp.example.com/agents/bob\n"
      ⟨none, some "bob", some "agtp.example.com", none, none⟩ rfl rfl rfl⟩

end Agtp.Ids.UriSamples
