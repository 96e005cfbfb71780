import Agtp.Presence.AudienceLaws

/-! # Bounding by an envelope

A requested visibility within an envelope shows a record to nobody who could not see it
under the envelope, and shows no more of it, where the requested mode is comparable with
that of the envelope and the audiences close no parenthesis that they have not opened. -/

namespace Agtp

namespace Audience

/-! ## Tokens of composed expressions -/

section Tokens

theorem word_nil : word [] = [] := rfl

theorem tokenizeFrom_space {character : Char} (space : Text.isSpace character = true)
    (reversed rest : List Char) :
    tokenizeFrom reversed (character :: rest) = word reversed ++ tokenizeFrom [] rest := by
  rw [tokenizeFrom, if_pos space]

theorem tokenizeFrom_parenthesis {character : Char}
    (parenthesis : character = '(' ∨ character = ')') (reversed rest : List Char) :
    tokenizeFrom reversed (character :: rest) =
      word reversed ++ String.ofList [character] :: tokenizeFrom [] rest := by
  have notSpace : Text.isSpace character = false := by
    rcases parenthesis with rfl | rfl <;> decide
  rw [tokenizeFrom, if_neg (Bool.eq_false_iff.mp notSpace), if_pos parenthesis]

theorem tokenizeFrom_append {character : Char} (parenthesis : character = '(' ∨ character = ')')
    (reversed before rest : List Char) :
    tokenizeFrom reversed (before ++ character :: rest) =
      tokenizeFrom reversed before ++ String.ofList [character] :: tokenizeFrom [] rest := by
  induction before generalizing reversed with
  | nil => exact tokenizeFrom_parenthesis parenthesis reversed rest
  | cons next before induction =>
      rw [List.cons_append, tokenizeFrom, tokenizeFrom]
      split
      · rw [induction, List.append_assoc]
      · split
        · rw [induction, List.append_assoc]
          rfl
        · exact induction (next :: reversed)

theorem tokenizeFrom_spaces {spaces : List Char} (all : ∀ character ∈ spaces, Text.isSpace character)
    (reversed before : List Char) :
    tokenizeFrom reversed (before ++ spaces) = tokenizeFrom reversed before := by
  induction before generalizing reversed with
  | nil =>
      induction spaces generalizing reversed with
      | nil => rfl
      | cons space rest induction =>
          have others : ∀ character ∈ rest, Text.isSpace character := fun character member =>
            all character (List.mem_cons_of_mem space member)
          have left := induction others []
          rw [List.nil_append] at left ⊢
          rw [tokenizeFrom_space (all space List.mem_cons_self), left]
          exact List.append_nil _
  | cons next before induction =>
      rw [List.cons_append, tokenizeFrom, tokenizeFrom]
      split
      · rw [induction]
      · split
        · rw [induction]
        · exact induction (next :: reversed)

theorem tokenizeFrom_dropWhile (characters : List Char) :
    tokenizeFrom [] (characters.dropWhile Text.isSpace) = tokenizeFrom [] characters := by
  induction characters with
  | nil => rfl
  | cons character rest induction =>
      rw [List.dropWhile_cons]
      split
      · next space => rw [tokenizeFrom_space space, word_nil, List.nil_append, induction]
      · rfl

theorem tokenize_strip (text : String) : tokenize (Text.strip text) = tokenize text := by
  rw [tokenize, tokenize, Text.strip, String.toList_ofList, ← tokenizeFrom_dropWhile text.toList]
  generalize text.toList.dropWhile Text.isSpace = characters
  have whole : (characters.reverse.dropWhile Text.isSpace).reverse ++
      (characters.reverse.takeWhile Text.isSpace).reverse = characters := by
    rw [← List.reverse_append, List.takeWhile_append_dropWhile, List.reverse_reverse]
  have spaces : ∀ character ∈ (characters.reverse.takeWhile Text.isSpace).reverse,
      Text.isSpace character := by
    intro character member
    exact List.mem_takeWhile_imp (List.mem_reverse.mp member)
  conv => rhs; rw [← whole]
  exact (tokenizeFrom_spaces spaces [] _).symm

def both (first second : List String) : List String :=
  "(" :: (first ++ ")" :: "AND" :: "(" :: (second ++ [")"]))

theorem tokenize_both (envelope requested : String) :
    tokenize ("(" ++ envelope ++ ") AND (" ++ requested ++ ")") =
      both (tokenize envelope) (tokenize requested) := by
  have opening : "(".toList = ['('] := rfl
  have closing : ")".toList = [')'] := rfl
  have between : ") AND (".toList = [')', ' ', 'A', 'N', 'D', ' ', '('] := rfl
  have operator (rest : List Char) :
      tokenizeFrom [] (' ' :: 'A' :: 'N' :: 'D' :: ' ' :: rest) =
        "AND" :: tokenizeFrom [] rest := rfl
  rw [tokenize, tokenize, tokenize]
  simp only [String.toList_append, opening, closing, between, List.append_assoc,
    List.cons_append, List.nil_append]
  rw [tokenizeFrom_parenthesis (.inl rfl), tokenizeFrom_append (.inr rfl), operator,
    tokenizeFrom_parenthesis (.inl rfl), tokenizeFrom_append (.inr rfl)]
  rfl

end Tokens

section Composition

variable [TextCase] [NumberText]

/-! ## What composed expressions mean -/

/-- A balanced expression between parentheses is an operand, and is read as it is
alone. -/
theorem parseNot_parenthesized {requester : RequesterContext} {frames : Nat}
    {inside after rest : List String} {value : Bool} (balanced : parentheses.Balanced inside)
    (ended : parseNot requester frames ("(" :: (inside ++ ")" :: after)) = .ok (value, rest)) :
    rest = after ∧ ∃ inner, inner ≤ frames ∧
      parseOr requester inner inside = .ok (value, []) := by
  rcases frames with _ | _ | frames
  · cases ended
  · rw [parseNot_succ, negated_cons, upper_opening,
      if_neg (by decide)] at ended
    cases ended
  · rw [parseNot_succ, negated_cons, upper_opening,
      if_neg (by decide), parseAtom_succ] at ended
    rcases enclosed_cases ended with ⟨tail, same, parsed⟩ | ⟨token, same, word, _⟩
    · have regular := regular_parseOr requester frames
      rw [← (List.cons.inj same).2] at parsed
      rcases regular.consumes _ _ _ parsed with ⟨taken, whole, taken_balanced, _⟩
      have own : inside = taken := Brackets.eq_of_closing balanced taken_balanced whole
      rw [own] at whole
      have rests := (List.cons.inj (List.append_cancel_left whole)).2
      refine ⟨rests.symm, frames, Nat.le_add_right frames 2, ?_⟩
      rw [← rests] at parsed
      have moved := regular.moves inside [] value (")" :: after) [] (ends_closing after) ends_nil
        parsed
      rwa [List.append_nil] at moved
    · exact absurd (List.cons.inj same).1.symm word.1

omit [NumberText] in
theorem upper_and : upper "AND" = "AND" := by
  rw [TextCase.upper_ascii "AND" (by decide)]
  decide

theorem parseAnd_both {requester : RequesterContext} {frames : Nat}
    {first second rest : List String} {value : Bool} (firstBalanced : parentheses.Balanced first)
    (secondBalanced : parentheses.Balanced second)
    (ended : parseAnd requester frames (both first second) = .ok (value, rest)) :
    rest = [] ∧ ∃ inner left right, inner ≤ frames ∧ value = (left && right) ∧
      parseOr requester inner first = .ok (left, []) := by
  cases frames with
  | zero => cases ended
  | succ frames =>
      rw [parseAnd_succ, joined] at ended
      rcases parsed : parseNot requester frames (both first second) with
        failure | ⟨left, middle⟩
      · rw [parsed] at ended
        cases ended
      · rw [parsed] at ended
        dsimp only at ended
        rcases parseNot_parenthesized firstBalanced parsed with ⟨rfl, inner, within, alone⟩
        rw [List.length_cons, joinRest_operator upper_and] at ended
        rcases next : parseNot requester frames ("(" :: (second ++ [")"])) with
          failure | ⟨right, last⟩
        · rw [next] at ended
          cases ended
        · rcases parseNot_parenthesized secondBalanced next with ⟨rfl, _⟩
          rw [next] at ended
          dsimp only at ended
          rw [joinRest_nil] at ended
          cases ended
          exact ⟨rfl, inner, left, right, Nat.le_succ_of_le within, rfl, alone⟩

omit [TextCase] [NumberText] in
theorem balanced_of_both {first second : List String} (firstClosed : parentheses.Closed first)
    (secondClosed : parentheses.Closed second)
    (balanced : parentheses.Balanced (both first second)) :
    parentheses.Balanced first ∧ parentheses.Balanced second := by
  rcases Option.isSome_iff_exists.mp firstClosed with ⟨firstOpen, firstDepth⟩
  rcases Option.isSome_iff_exists.mp secondClosed with ⟨secondOpen, secondDepth⟩
  have inFirst : parentheses.depthFrom 1 first = some (firstOpen + 1) :=
    Brackets.depthFrom_add firstDepth 1
  have inSecond := Brackets.depthFrom_add secondDepth (firstOpen + 1)
  rw [Nat.zero_add] at inSecond
  have depth : parentheses.depthFrom 0 (both first second) = some (secondOpen + firstOpen) := by
    calc
      _ = parentheses.depthFrom 1 (first ++ ")" :: "AND" :: "(" :: (second ++ [")"])) := rfl
      _ = parentheses.depthFrom (firstOpen + 1) (")" :: "AND" :: "(" :: (second ++ [")"])) := by
          rw [Brackets.depthFrom_append, inFirst, Option.bind_some]
      _ = parentheses.depthFrom (firstOpen + 1) (second ++ [")"]) :=
          Brackets.depthFrom_closing firstOpen _
      _ = parentheses.depthFrom (secondOpen + (firstOpen + 1)) [")"] := by
          rw [Brackets.depthFrom_append, inSecond, Option.bind_some]
      _ = some (secondOpen + firstOpen) := Brackets.depthFrom_closing _ []
  have nothing := Option.some.inj (depth.symm.trans balanced)
  rw [Nat.add_eq_zero_iff] at nothing
  rw [nothing.1] at secondDepth
  rw [nothing.2] at firstDepth
  exact ⟨firstDepth, secondDepth⟩

theorem parse_both {requester : RequesterContext} {frames : Nat}
    {first second : List String} (firstClosed : parentheses.Closed first)
    (secondClosed : parentheses.Closed second)
    (ended : parseOr requester frames (both first second) = .ok (true, [])) :
    parseOr requester frames first = .ok (true, []) := by
  rcases (regular_parseOr requester frames).consumes _ _ _ ended with ⟨taken, whole, balanced, _⟩
  rw [List.append_nil] at whole
  rw [← whole] at balanced
  rcases balanced_of_both firstClosed secondClosed balanced with ⟨firstBalanced, secondBalanced⟩
  cases frames with
  | zero => cases ended
  | succ frames =>
      rw [parseOr_succ, joined] at ended
      rcases parsed : parseAnd requester frames (both first second) with
        failure | ⟨value, rest⟩
      · rw [parsed] at ended
        cases ended
      · rw [parsed] at ended
        rcases parseAnd_both firstBalanced secondBalanced parsed with
          ⟨rfl, inner, left, right, within, both, alone⟩
        dsimp only at ended
        rw [joinRest_nil] at ended
        cases ended
        rw [(Bool.and_eq_true_iff.mp both.symm).1] at alone
        have more : inner + (frames + 1 - inner) = frames + 1 := by omega
        rw [← more]
        exact extends_add requester inner _ first _ alone

variable [CallDepth]

/-- An expression without tokens allows everyone; any other allows whom it evaluates to
true for. -/
theorem allows_eq (scope : String) (requester : RequesterContext) :
    allows scope requester =
      if tokenize scope = [] then .ok true
      else
        match parse (tokenize scope) requester with
        | .ok value => .ok value
        | .error .malformed => .ok false
        | .error .recursion => .error .recursionError := by
  rw [allows, tokenize_strip]
  split
  · next blank =>
      have nothing : tokenize scope = [] := by
        rw [← tokenize_strip, blank]
        rfl
      rw [if_pos nothing]
  · rfl

theorem parse_of_allows {scope : String} {requester : RequesterContext}
    (filled : tokenize scope ≠ []) (allowed : allows scope requester = .ok true) :
    parseOr requester CallDepth.frames (tokenize scope) = .ok (true, []) := by
  rw [allows_eq, if_neg filled, parse] at allowed
  rcases parsed : parseOr requester CallDepth.frames (tokenize scope) with
    failure | ⟨value, _ | ⟨token, rest⟩⟩
  · rw [parsed] at allowed
    cases failure <;> cases allowed
  · rw [parsed] at allowed
    cases allowed
    rfl
  · rw [parsed] at allowed
    cases allowed

theorem allows_of_boundAudience {envelope requested : String} {requester : RequesterContext}
    (closed : Text.strip envelope ≠ "" → Text.strip requested ≠ "" →
      parentheses.Closed (tokenize envelope) ∧ parentheses.Closed (tokenize requested))
    (allowed : allows (Visibility.boundAudience envelope requested) requester = .ok true) :
    allows envelope requester = .ok true := by
  rw [Visibility.boundAudience] at allowed
  by_cases unbounded : Text.strip envelope = ""
  · rw [allows, if_pos unbounded]
  · by_cases unasked : Text.strip requested = ""
    · rw [if_neg fun joined => joined.2 unasked, if_pos unbounded, allows_eq,
        tokenize_strip] at allowed
      rwa [allows_eq]
    · rw [if_pos ⟨unbounded, unasked⟩] at allowed
      have tokens := tokenize_both (Text.strip envelope) (Text.strip requested)
      rw [tokenize_strip, tokenize_strip] at tokens
      have parsed := parse_of_allows (by rw [tokens]; exact List.cons_ne_nil _ _) allowed
      rw [tokens] at parsed
      rcases closed unbounded unasked with ⟨firstClosed, secondClosed⟩
      rw [allows_eq]
      split
      · rfl
      · rw [parse, parse_both firstClosed secondClosed parsed]

end Composition

/-! ## Named agents -/

section Named

variable [TextCase]

def namedBy (token : String) : Option String :=
  if "agent-id:".toList.isPrefixOf (lower token).toList then
    match Wire.partitionColon token.toList with
    | some (_, rest) => some (Text.strip (String.ofList rest))
    | none => some ""
  else none

theorem explicitAllow_eq (scope : String) :
    explicitAllow scope = (tokenize scope).filterMap namedBy := rfl

theorem namedBy_fixed {token : String} (fixed : token ∈ ["(", ")", "AND"]) :
    namedBy token = none := by
  have ascii : Text.isAscii token := by
    revert fixed token
    decide
  rw [namedBy, TextCase.lower_ascii token ascii, if_neg]
  revert fixed token
  decide

theorem mem_explicitAllow_boundAudience {envelope requested agentId : String}
    (named : agentId ∈ explicitAllow (Visibility.boundAudience envelope requested)) :
    agentId ∈ explicitAllow envelope ∨ agentId ∈ explicitAllow requested := by
  rw [Visibility.boundAudience, explicitAllow_eq] at named
  rw [explicitAllow_eq, explicitAllow_eq]
  split at named
  · rw [tokenize_both, tokenize_strip, tokenize_strip, both] at named
    simp only [List.filterMap_cons, List.filterMap_append, List.filterMap_nil,
      namedBy_fixed (show "(" ∈ ["(", ")", "AND"] by decide),
      namedBy_fixed (show ")" ∈ ["(", ")", "AND"] by decide),
      namedBy_fixed (show "AND" ∈ ["(", ")", "AND"] by decide), List.append_nil,
      List.mem_append] at named
    exact named
  · split at named
    · rw [tokenize_strip] at named
      exact .inl named
    · rw [tokenize_strip] at named
      exact .inr named

end Named

end Audience

/-! ## Bounding -/

namespace Visibility

open Audience

section Bounding

variable [TextCase] [NumberText] [CallDepth]

def Shows (visibility : Visibility) (record : PresenceRecord) (requester : RequesterContext) :
    Prop :=
  PresenceRecord.isVisible { record with visibility } requester = .ok true

def disclosed (visibility : Visibility) (record : PresenceRecord) : List String :=
  (PresenceRecord.shapeEntry { record with visibility }).map Prod.fst

def Least (mode : String) : Prop :=
  rankIn disclosureOrder "existence-only" ≤ rankIn disclosureOrder mode

instance (mode : String) : Decidable (Least mode) := inferInstanceAs (Decidable (_ ≤ _))

/-- What a request must not do to its envelope for the record and the requester. -/
structure Within (envelope requested : Visibility) (record : PresenceRecord)
    (requester : RequesterContext) : Prop where
  /-- The modes of tiers, of owner domains and of named agents do not imply each other. -/
  comparable : envelope.presenceMode = "public" ∨
    rankIn presenceOrder requested.presenceMode ≤ rankIn presenceOrder envelope.presenceMode ∨
    rankIn presenceOrder "invisible" ≤ rankIn presenceOrder requested.presenceMode
  /-- The request does not name the requester where the envelope does not. -/
  named : envelope.presenceMode = "explicit-only" →
    requester.agentId ∈ explicitAllow requested.audienceScope →
      requester.agentId ∈ explicitAllow envelope.audienceScope
  /-- No audience closes a parenthesis that it has not opened. -/
  closed : Text.strip envelope.audienceScope ≠ "" → Text.strip requested.audienceScope ≠ "" →
    parentheses.Closed (tokenize envelope.audienceScope) ∧
      parentheses.Closed (tokenize requested.audienceScope)
  /-- The least that is disclosed is in the entry. -/
  identified : ¬Least envelope.disclosureMode → Least requested.disclosureMode →
    "agent_id" ∈ record.resultEntry.map Prod.fst

/-! ### Presence -/

omit [TextCase] [NumberText] [CallDepth] in
theorem boundMode_cases (modes : List String) (envelope requested : String) :
    boundMode modes envelope requested = envelope ∨
      boundMode modes envelope requested = requested ∧
        rankIn modes envelope ≤ rankIn modes requested := by
  rw [boundMode]
  split
  · next above => exact .inr ⟨rfl, above⟩
  · exact .inl rfl

omit [NumberText] [CallDepth] in
theorem modeAllows_hidden {record : PresenceRecord} (requester : RequesterContext)
    (hidden : rankIn presenceOrder "invisible" ≤
      rankIn presenceOrder record.visibility.presenceMode) :
    record.modeAllows requester = false := by
  have other (mode : String) (below : rankIn presenceOrder mode <
      rankIn presenceOrder "invisible") : record.visibility.presenceMode ≠ mode := by
    intro same
    rw [same] at hidden
    exact absurd below (not_lt.mpr hidden)
  rw [PresenceRecord.modeAllows, if_neg (other "public" (by decide)),
    if_neg (other "tier-scoped" (by decide)), if_neg (other "owner-domain" (by decide)),
    if_neg (other "explicit-only" (by decide))]

omit [NumberText] [CallDepth] in
theorem modeAllows_same {envelope bounded : Visibility} {record : PresenceRecord}
    {requester : RequesterContext} (same : bounded.presenceMode = envelope.presenceMode)
    (named : envelope.presenceMode = "explicit-only" →
      requester.agentId ∈ explicitAllow bounded.audienceScope →
        requester.agentId ∈ explicitAllow envelope.audienceScope)
    (allowed : PresenceRecord.modeAllows { record with visibility := bounded } requester = true) :
    PresenceRecord.modeAllows { record with visibility := envelope } requester = true := by
  by_cases explicit : envelope.presenceMode = "explicit-only"
  · rw [PresenceRecord.modeAllows] at allowed ⊢
    simp only [same, explicit, String.reduceEq, if_false, if_true, List.contains_iff_mem]
      at allowed ⊢
    exact named explicit allowed
  · rw [PresenceRecord.modeAllows] at allowed ⊢
    simp only [same, explicit, if_false] at allowed ⊢
    exact allowed

theorem shows_iff {visibility : Visibility} {record : PresenceRecord}
    {requester : RequesterContext} :
    visibility.Shows record requester ↔
      PresenceRecord.modeAllows { record with visibility } requester = true ∧
        allows visibility.audienceScope requester = .ok true := by
  rw [Shows, PresenceRecord.isVisible]
  split
  · next allowed => exact (and_iff_right allowed).symm
  · next refused => exact iff_of_false nofun fun both => refused both.1

theorem shows_of_bound {envelope requested : Visibility} {record : PresenceRecord}
    {requester : RequesterContext} (within : Within envelope requested record requester)
    (shown : (bound (some envelope) requested).Shows record requester) :
    envelope.Shows record requester := by
  have audience : (bound (some envelope) requested).audienceScope =
      boundAudience envelope.audienceScope requested.audienceScope := rfl
  have mode : (bound (some envelope) requested).presenceMode =
      boundMode presenceOrder envelope.presenceMode requested.presenceMode := rfl
  generalize bound (some envelope) requested = bounded at audience mode shown
  rw [shows_iff] at shown ⊢
  have allowed := shown.2
  rw [audience] at allowed
  refine ⟨?_, allows_of_boundAudience within.closed allowed⟩
  have sameMode (same : bounded.presenceMode = envelope.presenceMode) :
      PresenceRecord.modeAllows { record with visibility := envelope } requester = true := by
    apply modeAllows_same same _ shown.1
    intro explicit member
    rw [audience] at member
    rcases mem_explicitAllow_boundAudience member with own | asked
    · exact own
    · exact within.named explicit asked
  have visible : ¬rankIn presenceOrder "invisible" ≤ rankIn presenceOrder bounded.presenceMode := by
    intro hidden
    have refused : PresenceRecord.modeAllows { record with visibility := bounded } requester =
      false := modeAllows_hidden requester hidden
    exact Bool.false_ne_true (refused.symm.trans shown.1)
  rcases boundMode_cases presenceOrder envelope.presenceMode requested.presenceMode with
    same | ⟨same, above⟩
  · exact sameMode (mode.trans same)
  · rw [mode, same] at visible
    rcases within.comparable with isPublic | below | invisible
    · rw [PresenceRecord.modeAllows, if_pos isPublic]
    · by_cases known : envelope.presenceMode ∈ presenceOrder
      · have equal := (List.idxOf_inj known).mp (le_antisymm above below)
        exact sameMode ((mode.trans same).trans equal.symm)
      · have unknown : rankIn presenceOrder envelope.presenceMode = 5 :=
          List.idxOf_eq_length known
        have last : rankIn presenceOrder "invisible" ≤ 5 := by decide
        omega
    · exact absurd invisible visible

/-! ### Disclosure -/

omit [TextCase] [NumberText] [CallDepth] in
theorem disclosed_least {visibility : Visibility} (least : Least visibility.disclosureMode)
    (record : PresenceRecord) : visibility.disclosed record = ["agent_id"] := by
  have other (mode : String) (below : ¬Least mode) : visibility.disclosureMode ≠ mode := by
    intro same
    rw [same] at least
    exact below least
  have notWhole : ¬(visibility.disclosureMode = "full" ∨
      visibility.disclosureMode = "capabilities") := by
    rintro (full | capabilities)
    · exact other "full" (by decide) full
    · exact other "capabilities" (by decide) capabilities
  rw [disclosed, PresenceRecord.shapeEntry, if_neg notWhole,
    if_neg (other "identity-only" (by decide))]
  rfl

omit [TextCase] [NumberText] [CallDepth] in
theorem least_of_other {mode : String} (notFull : mode ≠ "full")
    (notCapabilities : mode ≠ "capabilities") (notIdentity : mode ≠ "identity-only") :
    Least mode := by
  simp [Least, rankIn, disclosureOrder, List.idxOf_cons, notFull.symm, notCapabilities.symm,
    notIdentity.symm]

omit [TextCase] [NumberText] [CallDepth] in
theorem disclosed_more {visibility : Visibility} (more : ¬Least visibility.disclosureMode)
    (record : PresenceRecord) :
    visibility.disclosed record = record.resultEntry.map Prod.fst ∨
      visibility.disclosureMode = "identity-only" ∧
        visibility.disclosed record = (record.resultEntry.filter fun entry =>
          PresenceRecord.identityMembers.contains entry.1).map Prod.fst := by
  rw [disclosed, PresenceRecord.shapeEntry]
  split
  · exact .inl rfl
  · next notWhole =>
      split
      · next identity => exact .inr ⟨identity, rfl⟩
      · next notIdentity =>
          rw [not_or] at notWhole
          exact absurd (least_of_other notWhole.1 notWhole.2 notIdentity) more

omit [TextCase] [NumberText] [CallDepth] in
theorem disclosed_congr {visibility other : Visibility}
    (same : visibility.disclosureMode = other.disclosureMode) (record : PresenceRecord) :
    visibility.disclosed record = other.disclosed record := by
  rw [disclosed, disclosed, PresenceRecord.shapeEntry, PresenceRecord.shapeEntry]
  simp only [same]

omit [TextCase] [NumberText] [CallDepth] in
theorem mem_disclosed_id (visibility : Visibility) {record : PresenceRecord}
    (there : "agent_id" ∈ record.resultEntry.map Prod.fst) :
    "agent_id" ∈ visibility.disclosed record := by
  by_cases least : Least visibility.disclosureMode
  · rw [disclosed_least least]
    exact List.mem_singleton_self _
  · rcases disclosed_more least record with whole | ⟨_, identity⟩
    · rwa [whole]
    · rw [identity]
      rcases List.mem_map.mp there with ⟨entry, member, same⟩
      refine List.mem_map.mpr ⟨entry, List.mem_filter.mpr ⟨member, ?_⟩, same⟩
      rw [same]
      decide

omit [NumberText] [CallDepth] in
theorem disclosed_of_bound {envelope requested : Visibility} {record : PresenceRecord}
    {requester : RequesterContext} (within : Within envelope requested record requester) :
    (bound (some envelope) requested).disclosed record ⊆ envelope.disclosed record := by
  have mode : (bound (some envelope) requested).disclosureMode =
      boundMode disclosureOrder envelope.disclosureMode requested.disclosureMode := rfl
  rcases boundMode_cases disclosureOrder envelope.disclosureMode requested.disclosureMode with
    same | ⟨same, above⟩
  · rw [disclosed_congr (mode.trans same)]
    exact List.Subset.refl _
  · rw [disclosed_congr (mode.trans same)]
    by_cases asked : Least requested.disclosureMode
    · rw [disclosed_least asked]
      by_cases least : Least envelope.disclosureMode
      · rw [disclosed_least least]
        exact List.Subset.refl _
      · intro key member
        rw [List.mem_singleton.mp member]
        exact mem_disclosed_id envelope (within.identified least asked)
    · have more : ¬Least envelope.disclosureMode := fun least => asked (le_trans least above)
      rcases disclosed_more more record with whole | ⟨identity, _⟩
      · rw [whole]
        rcases disclosed_more asked record with all | ⟨_, identity⟩
        · rw [all]
          exact List.Subset.refl _
        · rw [identity]
          exact (List.filter_sublist.map Prod.fst).subset
      · -- Only `identity-only` is at least as restrictive and discloses more than the least.
        have asksIdentity : requested.disclosureMode = "identity-only" := by
          rw [identity] at above
          by_contra other
          refine asked (least_of_other ?_ ?_ other)
          · intro full
            rw [full] at above
            exact absurd above (by decide)
          · intro capabilities
            rw [capabilities] at above
            exact absurd above (by decide)
        rw [disclosed_congr (asksIdentity.trans identity.symm)]
        exact List.Subset.refl _

end Bounding

end Visibility

/-! ## Samples -/

namespace NarrowingSamples

open Visibility
open scoped Plain PlainServing

scoped instance : CallDepth := ⟨100⟩

def record : PresenceRecord where
  agentId := "scout"
  resultEntry := [("agent_id", .string "scout"), ("trust_tier", .int 2)]
  scopes := []
  visibility := .standard
  announcedAt := "t"
  announcedAtEpoch := "90.0"
  ttlSeconds := 60
  ownerDomain := .string "a.example"
  attachment := none
  signature := .null

def of (domain : String) : RequesterContext :=
  { RequesterContext.anonymous with agentId := "buyer", ownerDomain := some domain }

instance (visibility : Visibility) (record : PresenceRecord) (requester : RequesterContext) :
    Decidable (visibility.Shows record requester) :=
  inferInstanceAs (Decidable (_ = Except.ok true))

def ownDomain : Visibility := ⟨"public", "full", "owner-domain:a.example"⟩

end NarrowingSamples

end Agtp
