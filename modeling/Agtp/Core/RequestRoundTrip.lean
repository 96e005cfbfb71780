import Agtp.Core.Framing

/-! # Requests come back as they were sent

A request whose parts keep to the wire format is read back as it was sent, with one
exception: a `Content-Length` that the sender set is sent as it is, whatever the body. -/

namespace Agtp.Wire

/-! ## Lines and fields -/

theorem splitCharacters_lines {first : List Char} {lines : List (List Char)}
    (unbrokenFirst : '\n' ∉ first) (unbroken : ∀ line ∈ lines, '\n' ∉ line) :
    Text.splitCharacters '\n' (first ++ lines.flatMap (lineEnd ++ ·) ++ ['\r']) =
      (first :: lines).map (· ++ ['\r']) := by
  induction lines generalizing first with
  | nil =>
      rw [List.flatMap_nil, List.append_nil, List.map_singleton]
      apply Text.splitCharacters_of_notMem
      simpa using unbrokenFirst
  | cons line lines induction =>
      have whole : first ++ (line :: lines).flatMap (lineEnd ++ ·) ++ ['\r'] =
          (first ++ ['\r']) ++ '\n' :: (line ++ lines.flatMap (lineEnd ++ ·) ++ ['\r']) := by
        simp [lineEnd]
      have notMember : '\n' ∉ first ++ ['\r'] := by simpa using unbrokenFirst
      rw [whole, Text.splitCharacters_append notMember,
        induction (unbroken line List.mem_cons_self)
          (fun other member => unbroken other (List.mem_cons_of_mem _ member))]
      rfl

structure IsProse (line : List Char) : Prop where
  oneLine : '\n' ∉ line
  noReturn : '\r' ∉ line
  solid : ∃ character ∈ line, Text.isSpace character = false

theorem stripReturns_line {line : List Char} (noReturn : '\r' ∉ line) :
    stripReturns (line ++ ['\r']) = line := by
  have kept : line.reverse.dropWhile (· = '\r') = line.reverse := by
    rw [List.dropWhile_eq_self_iff]
    intro some returned
    have member : line.reverse[0] ∈ line.reverse := List.getElem_mem some
    rw [of_decide_eq_true returned] at member
    exact noReturn (List.mem_reverse.mp member)
  simp [stripReturns, kept]

theorem not_isBlank {line : List Char} (prose : IsProse line) : ¬IsBlank (line ++ ['\r']) := by
  rcases prose.solid with ⟨character, member, _⟩
  rintro (none | bare)
  · simp at none
  · rw [List.append_left_eq_self.mp bare] at member
    cases member

theorem proseLines_head {first : List Char} {lines : List (List Char)}
    (prose : ∀ line ∈ first :: lines, IsProse line) :
    proseLines (first ++ lines.flatMap (lineEnd ++ ·) ++ lineEnd) =
      (first :: lines).map String.ofList := by
  have ends : first ++ lines.flatMap (lineEnd ++ ·) ++ lineEnd =
      (first ++ lines.flatMap (lineEnd ++ ·) ++ ['\r']) ++ ['\n'] := by
    simp [lineEnd]
  have split := splitCharacters_lines (prose first List.mem_cons_self).oneLine
    (fun line member => (prose line (List.mem_cons_of_mem _ member)).oneLine)
  have dropped : Text.strip (String.ofList []) = "" := by decide
  rw [proseLines, ends, Text.splitCharacters_concat, split, List.filter_append,
    List.filter_eq_self.mpr]
  · rw [List.filter_cons_of_neg (by simpa using dropped), List.filter_nil, List.append_nil,
      List.map_map]
    apply List.map_congr_left
    intro line member
    exact congrArg String.ofList (stripReturns_line (prose line member).noReturn)
  · intro ended member
    rcases List.mem_map.mp member with ⟨line, within, rfl⟩
    rcases (prose line within).solid with ⟨character, held, solid⟩
    exact decide_eq_true (Text.strip_ne (List.mem_append_left _ held) solid)

/-! ## Headers -/

structure IsField (text : String) : Prop where
  trimmed : Text.strip text = text
  noReturn : '\r' ∉ text.toList
  oneLine : '\n' ∉ text.toList

def Spelled (headers : Headers) : Prop :=
  ∀ entry ∈ headers.entries, IsField entry.1 ∧ ':' ∉ entry.1.toList ∧ IsField entry.2

theorem partitionColon_append {name : List Char} (notMember : ':' ∉ name) (value : List Char) :
    partitionColon (name ++ ':' :: value) = some (name, value) := by
  induction name with
  | nil => rfl
  | cons character rest induction =>
      simp only [List.mem_cons, not_or] at notMember
      rw [List.cons_append, partitionColon, induction notMember.2]
      · rfl
      · exact Ne.symm notMember.1

theorem parseHeaders_lines {entries : List (String × String)}
    (spelled : ∀ entry ∈ entries,
      IsField entry.1 ∧ ':' ∉ entry.1.toList ∧ IsField entry.2) :
    parseHeaders ((entries.map headerLine).map String.ofList) = some (Dict.ofList entries) := by
  unfold parseHeaders
  rw [List.map_map, List.mapM_map]
  suffices read : entries.mapM (fun entry =>
      (partitionColon (String.ofList (headerLine entry)).toList).map fun parts =>
        (Text.strip (String.ofList parts.1), Text.strip (String.ofList parts.2))) =
      some entries by
    exact congrArg (Option.map Dict.ofList) read
  induction entries with
  | nil => rfl
  | cons entry rest induction =>
      rcases spelled entry List.mem_cons_self with ⟨name, noColon, value⟩
      rw [List.mapM_cons, induction fun other member =>
        spelled other (List.mem_cons_of_mem _ member)]
      rw [String.toList_ofList, headerLine, partitionColon_append noColon, Option.map_some]
      dsimp only
      rw [Text.strip_blank, String.ofList_toList, name.trimmed, value.trimmed]
      rfl

theorem isProse_headerLine {entry : String × String} (name : IsField entry.1)
    (value : IsField entry.2) : IsProse (headerLine entry) where
  oneLine := by
    simp [headerLine, name.oneLine, value.oneLine]
  noReturn := by
    simp [headerLine, name.noReturn, value.noReturn]
  solid := ⟨':', by simp [headerLine], by decide⟩

theorem parseHead_of_spelled [TextOf] [TextDecoding] {startLine : List Char}
    (prose : IsProse startLine) {headers : Headers} (spelled : Spelled headers) :
    parseHead (Utf8.encode (headText startLine headers ++ lineEnd)) =
      .ok (String.ofList startLine, headers) := by
  have lines := proseLines_head
    (by
      intro line member
      rcases List.mem_cons.mp member with rfl | within
      · exact prose
      · rcases List.mem_map.mp within with ⟨entry, held, rfl⟩
        exact isProse_headerLine (spelled entry held).1 (spelled entry held).2.2)
  unfold parseHead headText
  rw [TextDecoding.replace_encode, String.toList_ofList]
  rw [List.flatMap_map] at lines
  rw [lines, List.map_cons]
  dsimp only
  rw [parseHeaders_lines spelled, Dict.ofList_entries]

theorem unbroken_of_spelled {startLine : List Char} (prose : IsProse startLine)
    {headers : Headers} (spelled : Spelled headers) : Unbroken (headText startLine headers) := by
  intro line member
  have split := splitCharacters_lines prose.oneLine (by
    intro line member
    rcases List.mem_map.mp member with ⟨entry, held, rfl⟩
    exact (isProse_headerLine (spelled entry held).1 (spelled entry held).2.2).oneLine)
  rw [List.flatMap_map] at split
  rw [physicalLines, headText, split] at member
  rcases List.mem_map.mp member with ⟨line, within, rfl⟩
  apply not_isBlank
  rcases List.mem_cons.mp within with rfl | headerLines
  · exact prose
  · rcases List.mem_map.mp headerLines with ⟨entry, held, rfl⟩
    exact isProse_headerLine (spelled entry held).1 (spelled entry held).2.2

/-! ## Request lines -/

structure IsToken (text : String) : Prop where
  some : text ≠ ""
  solid : ∀ character ∈ text.toList, Text.isSpace character = false
  noQuery : '?' ∉ text.toList
  noFragment : '#' ∉ text.toList

theorem IsToken.characters_ne {text : String} (token : IsToken text) : text.toList ≠ [] :=
  fun none => token.some (String.toList_eq_nil_iff.mp none)

theorem solid_of_isQuoted {character : Char}
    (quoted : PercentEncoding.isQuoted character = true) :
    Text.isSpace character = false ∧ character ≠ '#' := by
  have codes : ∀ code < 128, PercentEncoding.isUnreserved (UInt8.ofNat code) = true →
      Text.isSpace (Char.ofNat code) = false ∧ Char.ofNat code ≠ '#' := by
    decide +kernel
  unfold PercentEncoding.isQuoted at quoted
  simp only [Bool.or_eq_true, Bool.and_eq_true, decide_eq_true_eq] at quoted
  rcases quoted with rfl | ⟨ascii, unreserved⟩
  · decide
  · rw [← Char.ofNat_toNat character]
    exact codes character.toNat ascii unreserved

theorem mem_queryText {query : Dict String String} {character : Char}
    (member : character ∈ queryText query) :
    PercentEncoding.isQuoted character = true ∨ character = '=' ∨ character = '&' := by
  have pairs (entries : List (String × String))
      (member : character ∈ List.intercalate ['&'] (entries.map queryPair)) :
      PercentEncoding.isQuoted character = true ∨ character = '=' ∨ character = '&' := by
    have pair {entry : String × String} (within : character ∈ queryPair entry) :
        PercentEncoding.isQuoted character = true ∨ character = '=' := by
      rcases List.mem_append.mp within with name | value
      · exact .inl (PercentEncoding.isQuoted_of_mem_quote name)
      · rcases List.mem_cons.mp value with sign | value
        · exact .inr sign
        · exact .inl (PercentEncoding.isQuoted_of_mem_quote value)
    induction entries with
    | nil => cases member
    | cons entry rest induction =>
        cases rest with
        | nil =>
            rw [List.map_singleton, List.intercalate_singleton] at member
            exact (pair member).imp_right .inl
        | cons other rest =>
            rw [List.map_cons, List.map_cons, List.intercalate_cons_cons] at member
            rcases List.mem_append.mp member with first | later
            · rcases List.mem_append.mp first with within | sign
              · exact (pair within).imp_right .inl
              · exact .inr (.inr (List.mem_singleton.mp sign))
            · exact induction later
  exact pairs query.entries member

theorem solid_of_mem_queryText {query : Dict String String} {character : Char}
    (member : character ∈ queryText query) :
    Text.isSpace character = false ∧ character ≠ '#' := by
  rcases mem_queryText member with quoted | rfl | rfl
  · exact solid_of_isQuoted quoted
  · decide
  · decide

/-! ## Query strings -/

section Queries

variable [TextDecoding]

theorem addParameter_queryPair {entry : String × String} (named : entry.1 ≠ "")
    (query : Dict String String) :
    addParameter query (String.ofList (queryPair entry)) = query.set entry.1 entry.2 := by
  have notSign : ∀ character ∈ PercentEncoding.quote entry.1.toList,
      decide (character ≠ '=') = true := by
    intro character member
    apply decide_eq_true
    rintro rfl
    exact PercentEncoding.notMem_quote (by decide) _ member
  unfold addParameter queryPair
  rw [String.toList_ofList, List.takeWhile_append_of_pos notSign,
    List.dropWhile_append_of_pos notSign, List.takeWhile_cons_of_neg (by decide),
    List.dropWhile_cons_of_neg (by decide), List.append_nil]
  dsimp only [UrlText.unquotePlus]
  rw [PercentEncoding.unquotePlus_quote, PercentEncoding.unquotePlus_quote,
    String.ofList_toList, String.ofList_toList, if_neg named]

theorem parseQueryString_queryText {query : Dict String String}
    (named : ∀ name ∈ query.keys, name ≠ "") :
    parseQueryString (String.ofList (queryText query)) = query := by
  by_cases none : query.entries = []
  · have empty : query = .empty := Dict.eq_of_entries none
    rw [empty]
    exact parseQueryString_empty
  have parts : Text.splitCharacters '&' (queryText query) = query.entries.map queryPair := by
    apply Text.splitCharacters_intercalate (by simpa using none)
    intro part member
    rcases List.mem_map.mp member with ⟨entry, _, rfl⟩
    simp only [queryPair, List.mem_append, List.mem_cons, not_or]
    exact ⟨PercentEncoding.notMem_quote (by decide) _, by decide,
      PercentEncoding.notMem_quote (by decide) _⟩
  have filled : ∀ part ∈ (query.entries.map queryPair).map String.ofList,
      decide (part ≠ "") = true := by
    intro part member
    rcases List.mem_map.mp member with ⟨_, pairs, rfl⟩
    rcases List.mem_map.mp pairs with ⟨entry, _, rfl⟩
    apply decide_eq_true
    intro none
    have characters := congrArg String.toList none
    simp [queryPair] at characters
  unfold parseQueryString Text.split
  rw [String.toList_ofList, parts, List.filter_eq_self.mpr filled, List.map_map,
    List.foldl_map]
  calc query.entries.foldl
        (fun built entry => addParameter built (String.ofList (queryPair entry))) .empty
      = Dict.ofList query.entries := by
        apply List.foldl_ext
        intro built entry member
        exact addParameter_queryPair (named entry.1 (List.mem_map_of_mem member)) built
    _ = query := Dict.ofList_entries query

end Queries

/-! ## Targets -/

def querySuffix (query : Dict String String) : List Char :=
  if query.entries = [] then [] else '?' :: queryText query

theorem requestPath_of_token {request : Request} (path : IsToken request.path) :
    request.requestPath = request.path :=
  if_neg path.some

theorem pathToken_eq {request : Request} (path : IsToken request.path) :
    pathToken request = request.path.toList ++ querySuffix request.query := by
  rw [pathToken, requestPath_of_token path, querySuffix]

theorem solid_of_mem_suffix {query : Dict String String} {character : Char}
    (member : character ∈ querySuffix query) :
    Text.isSpace character = false ∧ character ≠ '#' := by
  unfold querySuffix at member
  split at member
  · cases member
  · rcases List.mem_cons.mp member with rfl | within
    · decide
    · exact solid_of_mem_queryText within

theorem solid_pathToken {request : Request} (path : IsToken request.path) {character : Char}
    (member : character ∈ pathToken request) :
    Text.isSpace character = false ∧ character ≠ '#' := by
  rw [pathToken_eq path] at member
  rcases List.mem_append.mp member with own | suffix
  · exact ⟨path.solid character own, fun same => path.noFragment (same ▸ own)⟩
  · exact solid_of_mem_suffix suffix

theorem partitionQuery_pathToken {request : Request} (path : IsToken request.path) :
    partitionQuery (pathToken request) = (request.path.toList, queryText request.query) := by
  rw [pathToken_eq path, querySuffix]
  split
  · next none =>
      rw [List.append_nil, partitionQuery_of_notMem path.noQuery, queryText, none]
      rfl
  · have notMark : ∀ character ∈ request.path.toList, decide (character ≠ '?') = true := by
      intro character member
      apply decide_eq_true
      rintro rfl
      exact path.noQuery member
    rw [partitionQuery, List.takeWhile_append_of_pos notMark,
      List.dropWhile_append_of_pos notMark]
    simp

theorem splitTarget_pathToken [TextOf] {request : Request} (path : IsToken request.path) :
    splitTarget (String.ofList (pathToken request)) =
      .ok (request.path, String.ofList (queryText request.query)) := by
  have noFragment : '#' ∉ pathToken request :=
    fun member => (solid_pathToken path member).2 rfl
  unfold splitTarget
  rw [String.toList_ofList, partitionQuery_pathToken path, if_neg noFragment]
  dsimp only
  rw [if_neg path.characters_ne, String.ofList_toList]

theorem words_requestLine {request : Request} (method : IsToken request.method)
    (path : IsToken request.path) :
    Text.words (String.ofList (requestLine request)) =
      agtpVersion :: request.method ::
        if pathToken request = ['/'] then [] else [String.ofList (pathToken request)] := by
  have version : ∀ character ∈ agtpVersion.toList, Text.isSpace character = false :=
    Text.forall_mem_of_all (by decide)
  have some : pathToken request ≠ [] := by
    rw [pathToken_eq path]
    exact fun none => path.characters_ne (List.append_eq_nil_iff.mp none).1
  unfold requestLine
  split
  · rw [List.append_nil, Text.words_cons (by decide) version,
      Text.words_word method.characters_ne method.solid, String.ofList_toList,
      String.ofList_toList]
  · rw [List.append_assoc, List.cons_append, Text.words_cons (by decide) version,
      Text.words_cons method.characters_ne method.solid,
      Text.words_word some fun _ member => (solid_pathToken path member).1,
      String.ofList_toList, String.ofList_toList]

theorem readRequestLine_requestLine [TextOf] {request : Request}
    (method : IsToken request.method) (path : IsToken request.path) :
    readRequestLine (String.ofList (requestLine request)) =
      .ok (request.method, request.path, String.ofList (queryText request.query)) := by
  have target := splitTarget_pathToken path
  unfold readRequestLine
  rw [words_requestLine method path]
  by_cases root : pathToken request = ['/']
  · have slash : String.ofList (pathToken request) = "/" := congrArg String.ofList root
    rw [slash] at target
    rw [if_pos root]
    dsimp only
    rw [if_pos rfl, target]
  · rw [if_neg root]
    dsimp only
    rw [if_pos rfl, target]

theorem isProse_requestLine {request : Request} (method : IsToken request.method)
    (path : IsToken request.path) : IsProse (requestLine request) := by
  have printed : ∀ character ∈ requestLine request,
      character ≠ '\n' ∧ character ≠ '\r' := by
    intro character member
    have solid (within : Text.isSpace character = false) :
        character ≠ '\n' ∧ character ≠ '\r' := by
      constructor <;> rintro rfl <;> exact absurd within (by decide)
    rcases List.mem_append.mp member with front | target
    · rcases List.mem_append.mp front with version | rest
      · have all : ∀ character ∈ agtpVersion.toList, character ≠ '\n' ∧ character ≠ '\r' :=
          Text.forall_mem_of_all (by decide)
        exact all character version
      · rcases List.mem_cons.mp rest with rfl | within
        · decide
        · exact solid (method.solid character within)
    · split at target
      · cases target
      · rcases List.mem_cons.mp target with rfl | within
        · decide
        · exact solid (solid_pathToken path within).1
  refine ⟨fun member => (printed _ member).1 rfl, fun member => (printed _ member).2 rfl,
    'A', ?_, by decide⟩
  exact List.mem_append_left _ (List.mem_append_left _ (by decide))

/-! ## Lengths -/

theorem spelled_framedHeaders {headers : Headers} (spelled : Spelled headers) {body : Bytes}
    (digits : IsField (toString body.length)) : Spelled (framedHeaders headers body) := by
  unfold framedHeaders
  split
  · exact spelled
  · unfold Dict.setDefault
    split
    · exact spelled
    · intro entry member
      rcases Dict.mem_of_set member with own | rfl
      · exact spelled entry own
      · have name : IsField "Content-Length" := ⟨by decide, by decide, by decide⟩
        have noColon : ':' ∉ "Content-Length".toList := by decide
        exact ⟨name, noColon, digits⟩

section Lengths

variable [TextCase]

def isLength (name : String) : Bool := named "content-length" name

theorem isLength_canonical : isLength "Content-Length" = true := by
  rw [isLength, named_ascii (by decide) (by decide)]
  decide

theorem framedHeaders_others (headers : Headers) (body : Bytes) :
    (framedHeaders headers body).filterKeys (!isLength ·) =
      headers.filterKeys (!isLength ·) := by
  unfold framedHeaders
  split
  · rfl
  · unfold Dict.setDefault
    split
    · rfl
    · next missing =>
        apply Dict.eq_of_entries
        have fresh : "Content-Length" ∉ headers.keys := by
          intro held
          rcases List.mem_map.mp held with ⟨⟨_, value⟩, member, rfl⟩
          rw [(Dict.get?_eq_some_iff headers).mpr member] at missing
          cases missing
        unfold Dict.filterKeys
        dsimp only
        rw [Dict.entries_set_of_notMem fresh, List.filter_append,
          List.filter_cons_of_neg (by simp [isLength_canonical]), List.filter_nil,
          List.append_nil]

theorem header_framedHeaders (headers : Headers) (body : Bytes) :
    header (framedHeaders headers body) "content-length" =
      match headers.first? isLength with
      | some (_, value) => value
      | none => if body = [] then "" else toString body.length := by
  change (match (framedHeaders headers body).first? isLength with
    | some (_, value) => value
    | none => "") = _
  unfold framedHeaders
  by_cases none : body = []
  · rw [if_pos none, if_pos none]
  · rw [if_neg none, if_neg none]
    unfold Dict.setDefault
    cases held : headers.get? "Content-Length" with
    | some value =>
        dsimp only
        cases found : headers.first? isLength with
        | some entry => rfl
        | none =>
            have member := (Dict.get?_eq_some_iff headers).mp held
            have other := List.find?_eq_none.mp found _ member
            exact absurd isLength_canonical other
    | none =>
        dsimp only
        rw [Dict.first?_set]
        cases found : headers.first? isLength with
        | none => simp [isLength_canonical]
        | some entry =>
            rcases entry with ⟨name, value⟩
            dsimp only
            rw [if_neg]
            rintro rfl
            rw [(Dict.get?_eq_some_iff headers).mpr (List.mem_of_find?_eq_some found)] at held
            cases held

end Lengths

/-- Lengths are read back from their digits. -/
class DecimalLengths [NumberText] : Prop where
  intOfText_toString : ∀ length < 2 ^ 63,
    NumberText.intOfText (toString length) = some (.ofNat length)

theorem isDigit_of_mem_toString {length : Nat} {character : Char}
    (member : character ∈ (toString length).toList) : character.isDigit = true := by
  have digits : (toString length).toList = Nat.toDigits 10 length := Nat.toList_repr
  rw [digits] at member
  exact Nat.isDigit_of_mem_toDigits (by decide) (by decide) member

theorem toString_ne (length : Nat) : toString length ≠ "" := by
  intro none
  have digits : (toString length).toList = Nat.toDigits 10 length := Nat.toList_repr
  rw [none] at digits
  exact Nat.toDigits_ne_nil digits.symm

theorem isField_toString (length : Nat) : IsField (toString length) := by
  have solid : ∀ character ∈ (toString length).toList, Text.isSpace character = false := by
    intro character member
    have digit := isDigit_of_mem_toString member
    simp only [Char.isDigit, Bool.and_eq_true, decide_eq_true_eq, UInt32.le_iff_toNat_le]
      at digit
    have code : character.toNat = character.val.toNat := rfl
    have zero : '0'.val.toNat = 48 := rfl
    have nine : '9'.val.toNat = 57 := rfl
    simp only [Text.isSpace, Bool.or_eq_false_iff, Bool.and_eq_false_iff,
      decide_eq_false_iff_not, beq_eq_false_iff_ne, code]
    omega
  refine ⟨Text.strip_solid solid, fun member => ?_, fun member => ?_⟩
  · exact absurd (solid _ member) (by decide)
  · exact absurd (solid _ member) (by decide)

/-! ## Round trips -/

section RoundTrips

variable [TextCase]

/-- Requests that the wire format has a spelling for. -/
structure WellFormed (request : Request) : Prop where
  method : IsToken request.method
  path : IsToken request.path
  headers : Spelled request.headers
  /-- no two header names are equal up to case -/
  distinct : (request.headers.entries.map fun entry => lower entry.1).Nodup
  parameters : ∀ name ∈ request.query.keys, name ≠ ""

variable [NumberText]

theorem announced_framedHeaders [DecimalLengths] {headers : Headers}
    (distinct : (headers.entries.map fun entry => lower entry.1).Nodup) {body : Bytes}
    (short : body.length < 2 ^ 63) :
    announcedLength (header (framedHeaders headers body) "content-length") =
        some body.length ↔
      ∀ entry ∈ headers.entries, isLength entry.1 = true →
        announcedLength entry.2 = some body.length := by
  rw [header_framedHeaders]
  cases found : headers.first? isLength with
  | none =>
      have others := List.find?_eq_none.mp found
      constructor
      · intro _ entry member length
        exact absurd length (others entry member)
      · intro _
        dsimp only
        split
        · next none =>
            rw [none]
            rfl
        · unfold announcedLength
          rw [if_neg (toString_ne _), DecimalLengths.intOfText_toString _ short]
  | some first =>
      have member := List.mem_of_find?_eq_some found
      have length : isLength first.1 = true := by simpa using List.find?_some found
      constructor
      · intro announced entry within other
        have same : lower entry.1 = lower first.1 :=
          (of_decide_eq_true other).trans (of_decide_eq_true length).symm
        rw [List.inj_on_of_nodup_map distinct within member same]
        exact announced
      · intro announced
        exact announced first member length

variable [TextOf] [TextDecoding]

/-- The request comes back with its method, path, query and body, and with its headers up
to the length. -/
def RoundTrips (request : Request) : Prop :=
  ∃ received, parseRequest (serializeRequest request) = .ok (received, []) ∧
    received.method = request.method ∧ received.path = request.path ∧
    received.query = request.query ∧
    received.headers.filterKeys (!isLength ·) = request.headers.filterKeys (!isLength ·) ∧
    received.body = request.body

/-- A well-formed request comes back exactly if no header of its own misstates the length of
its body. -/
theorem roundTrips_iff [DecimalLengths] {request : Request} (wellFormed : WellFormed request)
    (short : request.body.length < 2 ^ 63) :
    RoundTrips request ↔
      ∀ entry ∈ request.headers.entries, isLength entry.1 = true →
        announcedLength entry.2 = some request.body.length := by
  have prose := isProse_requestLine wellFormed.method wellFormed.path
  have spelled := spelled_framedHeaders wellFormed.headers
    (isField_toString request.body.length)
  have head := readHead_of_unbroken (unbroken_of_spelled prose spelled) request.body
  have lines := parseHead_of_spelled prose spelled
  have start := readRequestLine_requestLine wellFormed.method wellFormed.path
  rw [← announced_framedHeaders wellFormed.distinct short]
  constructor
  · rintro ⟨received, parsed, _, _, _, _, body⟩
    unfold parseRequest at parsed
    cases message : parseMessage readRequestLine (serializeRequest request) with
    | error failure =>
        rw [message] at parsed
        cases parsed
    | ok read =>
        rw [message] at parsed
        rcases read with ⟨read, rest⟩
        cases parsed
        rcases parseMessage_ok message with ⟨_, _, _, readHead, parsedHead, _, taken⟩
        rw [serializeRequest, serialize, head] at readHead
        cases readHead
        rw [lines] at parsedHead
        have sameHeaders : framedHeaders request.headers request.body = read.headers :=
          congrArg Prod.snd (Except.ok.inj parsedHead)
        have sameBody : read.body = request.body := body
        rw [sameBody, ← sameHeaders] at taken
        apply readBody_iff.mp
        rwa [List.append_nil]
  · intro announced
    have taken : readBody (framedHeaders request.headers request.body) request.body =
        .ok (request.body, []) := by
      have read : readBody (framedHeaders request.headers request.body) (request.body ++ []) =
          .ok (request.body, []) := readBody_iff.mpr announced
      rwa [List.append_nil] at read
    have message := parseMessage_of_ok head lines start taken
    have parsed : parseRequest (serializeRequest request) =
        (.ok (toRequest ⟨(request.method, request.path, String.ofList (queryText request.query)),
          framedHeaders request.headers request.body, request.body⟩, [])) := by
      unfold parseRequest serializeRequest serialize
      rw [message]
      rfl
    exact ⟨_, parsed, rfl, rfl, parseQueryString_queryText wellFormed.parameters,
      framedHeaders_others _ _, rfl⟩

end RoundTrips

end Agtp.Wire

namespace Agtp.Wire.RoundTripSamples

open scoped Plain FramingSamples

theorem intOfText_digits {digits : List Char} (all : ∀ digit ∈ digits, digit.isDigit = true)
    (value : Nat) :
    digits.foldlM (fun value (digit : Char) =>
        if digit.isDigit then some (10 * value + (digit.toNat - '0'.toNat)) else none) value =
      some (Nat.ofDigitChars 10 digits value) := by
  induction digits generalizing value with
  | nil => rfl
  | cons digit rest induction =>
      rw [List.foldlM_cons, if_pos (all digit List.mem_cons_self), Nat.ofDigitChars_cons]
      exact induction (fun other member => all other (List.mem_cons_of_mem _ member)) _

scoped instance : DecimalLengths where
  intOfText_toString length _ := by
    have digits := intOfText_digits (fun _ : Char => @isDigit_of_mem_toString length _) 0
    have characters : (toString length).toList = Nat.toDigits 10 length := Nat.toList_repr
    have value : Nat.ofDigitChars 10 (toString length).toList 0 = length := by
      rw [characters, Nat.ofDigitChars_ten_toDigits]
    rw [value] at digits
    exact congrArg (Option.map Int.ofNat) digits

def marked : Request where
  method := "QUERY"
  headers := .ofList [("Agent-ID", "a1"), ("X-Note", "")]
  body := [65, 10, 66]
  path := "/find"
  query := .ofList [("a b&=", "+%?#"), ("blank", "")]
  verifiedCert := none
  aliasedFrom := ""
  actingPrincipalId := ""

theorem marked_returns : RoundTrips marked := by
  have wellFormed : WellFormed marked := {
    method := ⟨by decide, Text.forall_mem_of_all (by decide), by decide, by decide⟩
    path := ⟨by decide, Text.forall_mem_of_all (by decide), by decide, by decide⟩
    headers := by
      intro entry member
      have entries : entry = ("Agent-ID", "a1") ∨ entry = ("X-Note", "") := by
        simpa using (show entry ∈ [("Agent-ID", "a1"), ("X-Note", "")] from member)
      rcases entries with rfl | rfl
      · exact ⟨⟨by decide, by decide, by decide⟩, by decide, by decide, by decide, by decide⟩
      · exact ⟨⟨by decide, by decide, by decide⟩, by decide, by decide, by decide, by decide⟩
    distinct := by decide
    parameters := by decide }
  exact (roundTrips_iff wellFormed (by decide)).mpr (by decide)

def stale : Request where
  method := "QUERY"
  headers := .ofList [("Content-Length", "1")]
  body := [65, 66]
  path := "/"
  query := .empty
  verifiedCert := none
  aliasedFrom := ""
  actingPrincipalId := ""

/-- A set length is sent as it is, and the request comes back without the end of its body. -/
theorem stale_loses_body : WellFormed stale ∧ ¬RoundTrips stale := by
  have wellFormed : WellFormed stale := {
    method := ⟨by decide, Text.forall_mem_of_all (by decide), by decide, by decide⟩
    path := ⟨by decide, Text.forall_mem_of_all (by decide), by decide, by decide⟩
    headers := by
      intro entry member
      cases List.mem_singleton.mp (show entry ∈ [("Content-Length", "1")] from member)
      exact ⟨⟨by decide, by decide, by decide⟩, by decide, by decide, by decide, by decide⟩
    distinct := by decide
    parameters := by decide }
  refine ⟨wellFormed, ?_⟩
  rintro ⟨received, parsed, _⟩
  have read : (parseRequest (serializeRequest stale)).toOption.map Prod.snd = some [66] := by
    decide +kernel
  rw [parsed] at read
  cases read

end Agtp.Wire.RoundTripSamples
