import Agtp.Core.WireCodec

/-! # What a message leaves on the stream

A reader that is sent a message and whatever follows it takes the message's body and leaves
the rest exactly if the head of the message, read by itself, announces that body. -/

namespace Agtp.Wire

/-! ## Lines of bytes -/

theorem newline_notMem_encode {line : List Char} (unbroken : '\n' ∉ line) :
    (10 : UInt8) ∉ Utf8.encode line :=
  fun member => unbroken (Utf8.mem_of_byte_mem_encode (by decide) member)

theorem readHeadFrom_line {chunks line more : Bytes} (unbroken : (10 : UInt8) ∉ more)
    (rest : Bytes) :
    readHeadFrom chunks line (more ++ 10 :: rest) =
      if line ++ more = [] ∨ line ++ more = [13] then .ok (chunks, rest)
      else readHeadFrom (chunks ++ (line ++ more) ++ [10]) [] rest := by
  induction more generalizing line with
  | nil => simp [readHeadFrom]
  | cons byte more induction =>
      simp only [List.mem_cons, not_or] at unbroken
      rw [List.cons_append, readHeadFrom, if_neg (Ne.symm unbroken.1), induction unbroken.2,
        List.append_assoc, List.singleton_append]

def IsBlank (line : List Char) : Prop := line = [] ∨ line = ['\r']

instance (line : List Char) : Decidable (IsBlank line) :=
  inferInstanceAs (Decidable (line = [] ∨ line = ['\r']))

def joined (lines : List (List Char)) : List Char :=
  lines.flatMap (· ++ ['\n'])

theorem joined_splitCharacters (text : List Char) :
    joined (Text.splitCharacters '\n' text) = text ++ ['\n'] := by
  induction text with
  | nil => rfl
  | cons character rest induction =>
      unfold Text.splitCharacters
      split
      · next same =>
          subst same
          exact congrArg ('\n' :: ·) induction
      · split
        · next none => exact absurd none (Text.splitCharacters_ne_nil _ _)
        · next part parts found =>
            rw [found] at induction
            exact congrArg (character :: ·) induction

theorem encode_line (line : List Char) (rest : Bytes) :
    Utf8.encode (line ++ ['\n']) ++ rest = Utf8.encode line ++ 10 :: rest := by
  rw [Utf8.encode_append, List.append_assoc]
  rfl

section Decoding

variable [TextDecoding]

theorem blank_iff (line : List Char) :
    (Utf8.encode line = [] ∨ Utf8.encode line = [13]) ↔ IsBlank line :=
  or_congr ⟨fun same => Utf8.encode_injective (same.trans Utf8.encode_nil.symm),
      fun same => by rw [same, Utf8.encode_nil]⟩
    ⟨fun same => Utf8.encode_injective (same.trans (by rfl)), fun same => by rw [same]; rfl⟩

theorem readHeadFrom_lines {lines : List (List Char)}
    (unbroken : ∀ line ∈ lines, '\n' ∉ line) (prose : ∀ line ∈ lines, ¬IsBlank line)
    (chunks rest : Bytes) :
    readHeadFrom chunks [] (Utf8.encode (joined lines) ++ rest) =
      readHeadFrom (chunks ++ Utf8.encode (joined lines)) [] rest := by
  induction lines generalizing chunks with
  | nil => simp [joined]
  | cons line lines induction =>
      have whole : joined (line :: lines) = (line ++ ['\n']) ++ joined lines := rfl
      have notBlank := (blank_iff line).not.mpr (prose line List.mem_cons_self)
      rw [whole, Utf8.encode_append, List.append_assoc, encode_line,
        readHeadFrom_line (newline_notMem_encode (unbroken line List.mem_cons_self)),
        List.nil_append, if_neg notBlank,
        induction (fun other member => unbroken other (List.mem_cons_of_mem _ member))
          (fun other member => prose other (List.mem_cons_of_mem _ member)),
        Utf8.encode_append]
      simp only [List.append_assoc]
      rfl

theorem readHeadFrom_blank {line : List Char} (blank : IsBlank line) (chunks rest : Bytes) :
    readHeadFrom chunks [] (Utf8.encode (line ++ ['\n']) ++ rest) = .ok (chunks, rest) := by
  have unbroken : '\n' ∉ line := by
    rcases blank with rfl | rfl <;> decide
  rw [encode_line, readHeadFrom_line (newline_notMem_encode unbroken), List.nil_append,
    if_pos ((blank_iff line).mpr blank)]

end Decoding

/-! ## Heads -/

def physicalLines (head : List Char) : List (List Char) :=
  Text.splitCharacters '\n' (head ++ ['\r'])

def Unbroken (head : List Char) : Prop :=
  ∀ line ∈ physicalLines head, ¬IsBlank line

theorem encode_head (head : List Char) :
    Utf8.encode (head ++ lineEnd ++ lineEnd) =
      Utf8.encode (joined (physicalLines head)) ++ Utf8.encode (['\r'] ++ ['\n']) := by
  rw [physicalLines, joined_splitCharacters, ← Utf8.encode_append]
  congr 1
  simp [lineEnd]

variable [TextDecoding]

omit [TextDecoding] in
theorem newline_notMem_physicalLines {head line : List Char}
    (member : line ∈ physicalLines head) : '\n' ∉ line :=
  Text.notMem_of_mem_splitCharacters member

theorem readHead_of_unbroken {head : List Char} (unbroken : Unbroken head) (rest : Bytes) :
    readHead (Utf8.encode (head ++ lineEnd ++ lineEnd) ++ rest) =
      .ok (Utf8.encode (head ++ lineEnd), rest) := by
  rw [encode_head, List.append_assoc, readHead,
    readHeadFrom_lines (fun _ => newline_notMem_physicalLines) unbroken, List.nil_append,
    readHeadFrom_blank (.inr rfl), physicalLines, joined_splitCharacters]
  simp [lineEnd]

theorem readHead_of_broken {head : List Char} (broken : ¬Unbroken head) :
    ∃ raw left, left ≠ [] ∧ ∀ rest,
      readHead (Utf8.encode (head ++ lineEnd ++ lineEnd) ++ rest) = .ok (raw, left ++ rest) := by
  simp only [Unbroken, not_forall, not_not] at broken
  rcases broken with ⟨_, member, blank⟩
  have found : ((physicalLines head).find? (IsBlank ·)).isSome = true :=
    List.find?_isSome.mpr ⟨_, member, decide_eq_true blank⟩
  rcases Option.isSome_iff_exists.mp found with ⟨line, first⟩
  rcases List.find?_eq_some_iff_append.mp first with ⟨isBlank, before, after, split, earlier⟩
  refine ⟨Utf8.encode (joined before), Utf8.encode (joined after) ++
    Utf8.encode (['\r'] ++ ['\n']), ?_, ?_⟩
  · intro none
    exact absurd (List.append_eq_nil_iff.mp none).2 (by decide)
  · intro rest
    have whole : joined (before ++ line :: after) =
        joined before ++ ((line ++ ['\n']) ++ joined after) := by
      simp [joined]
    rw [encode_head, split, whole, Utf8.encode_append, Utf8.encode_append, List.append_assoc,
      List.append_assoc, List.append_assoc, readHead,
      readHeadFrom_lines (fun other within => newline_notMem_physicalLines
          (split ▸ List.mem_append_left _ within))
        (fun other within => by simpa using earlier other within),
      List.nil_append, readHeadFrom_blank (of_decide_eq_true isBlank), List.append_assoc]

/-! ## Messages -/

/-- Whatever follows the message on the stream, the reader takes its body and leaves what
follows. -/
def FramesBody {Message : Type} (parse : Bytes → Except WireFailure (Message × Bytes))
    (bodyOf : Message → Bytes) (sent body : Bytes) : Prop :=
  ∀ rest, ∃ message, parse (sent ++ rest) = .ok (message, rest) ∧ bodyOf message = body

section Messages

variable [NumberText] [TextCase]

def announcedLength (value : String) : Option Nat :=
  if value = "" then some 0
  else
    match NumberText.intOfText value with
    | some (.ofNat length) => some length
    | _ => none

/-- The head, read by itself, announces the body. No line of it is blank, it is well formed,
and the first header in it that is named `Content-Length` in any casing tells the length of
the body. -/
structure SelfFramed [TextOf] {Start : Type} (readStart : String → Except WireFailure Start)
    (head : List Char) (body : Bytes) : Prop where
  unbroken : Unbroken head
  announces : ∃ startLine headers start,
    parseHead (Utf8.encode (head ++ lineEnd)) = .ok (startLine, headers) ∧
      readStart startLine = .ok start ∧
      announcedLength (header headers "content-length") = some body.length

omit [TextDecoding]

variable [TextOf] {headers : Headers} {stream body rest : Bytes}

theorem append_of_readBody (read : readBody headers stream = .ok (body, rest)) :
    body ++ rest = stream := by
  unfold readBody at read
  dsimp only at read
  split at read
  · cases read
    rfl
  · split at read
    · cases read
    · split at read
      · cases read
        exact List.take_append_drop _ _
      · cases read
    · cases read
    · cases read

theorem readBody_iff :
    readBody headers (body ++ rest) = .ok (body, rest) ↔
      announcedLength (header headers "content-length") = some body.length := by
  unfold readBody announcedLength
  dsimp only
  split
  · constructor
    · intro read
      have none : body = [] := by
        have first := congrArg (Except.map Prod.fst) read
        simpa [Except.map] using first.symm
      rw [none]
      rfl
    · intro none
      have blank : body = [] := List.eq_nil_of_length_eq_zero (Option.some.inj none).symm
      rw [blank]
      rfl
  · generalize NumberText.intOfText (header headers "content-length") = number
    rcases number with _ | length | (_ | negative)
    · simp
    · dsimp only
      constructor
      · intro read
        split at read
        · next within =>
            have first := congrArg (Except.map fun part => part.1.length) read
            simp only [Except.map, Except.ok.injEq, List.length_take] at first
            simp only [List.length_append] at first within
            exact congrArg some (by omega)
        · cases read
      · intro same
        cases same
        rw [if_pos (by simp), List.take_left, List.drop_left]
    · exact ⟨nofun, nofun⟩
    · exact ⟨nofun, nofun⟩

variable [TextDecoding] {Start : Type} {readStart : String → Except WireFailure Start}

theorem parseMessage_ok {received : Received Start}
    (parsed : parseMessage readStart stream = .ok (received, rest)) :
    ∃ raw afterHead startLine, readHead stream = .ok (raw, afterHead) ∧
      parseHead raw = .ok (startLine, received.headers) ∧
      readStart startLine = .ok received.start ∧
      readBody received.headers afterHead = .ok (received.body, rest) := by
  unfold parseMessage at parsed
  rcases Fallible.ok_of_bind parsed with ⟨⟨raw, afterHead⟩, head, parsed⟩
  rcases Fallible.ok_of_bind parsed with ⟨⟨startLine, headers⟩, lines, parsed⟩
  rcases Fallible.ok_of_bind parsed with ⟨start, started, parsed⟩
  rcases Fallible.ok_of_bind parsed with ⟨⟨body, after⟩, taken, parsed⟩
  cases parsed
  exact ⟨raw, afterHead, startLine, head, lines, started, taken⟩

theorem parseMessage_of_ok {raw afterHead : Bytes} {startLine : String} {start : Start}
    (head : readHead stream = .ok (raw, afterHead))
    (lines : parseHead raw = .ok (startLine, headers))
    (started : readStart startLine = .ok start)
    (taken : readBody headers afterHead = .ok (body, rest)) :
    parseMessage readStart stream = .ok (⟨start, headers, body⟩, rest) := by
  unfold parseMessage
  rw [head]
  dsimp only [bind, Except.bind]
  rw [lines]
  dsimp only
  rw [started]
  dsimp only
  rw [taken]
  rfl

theorem framesBody_iff (startLine : List Char) (sent : Headers) (body : Bytes) :
    FramesBody (parseMessage readStart) Received.body (serialize startLine sent body) body ↔
      SelfFramed readStart (headText startLine (framedHeaders sent body)) body := by
  unfold serialize
  generalize headText startLine (framedHeaders sent body) = head
  constructor
  · intro frames
    have unbroken : Unbroken head := by
      by_contra broken
      rcases readHead_of_broken broken with ⟨raw, left, some, read⟩
      rcases frames [] with ⟨message, parsed, rfl⟩
      rcases parseMessage_ok parsed with ⟨_, _, _, again, _, _, taken⟩
      rw [List.append_assoc, read] at again
      cases again
      -- what is left of the head would have to be nothing
      have lengths := congrArg List.length (append_of_readBody taken)
      simp only [List.length_append] at lengths
      exact some (List.eq_nil_of_length_eq_zero (by omega))
    refine ⟨unbroken, ?_⟩
    rcases frames [] with ⟨message, parsed, rfl⟩
    rcases parseMessage_ok parsed with ⟨raw, afterHead, line, again, lines, started, taken⟩
    rw [List.append_assoc, readHead_of_unbroken unbroken] at again
    cases again
    exact ⟨line, message.headers, message.start, lines, started, readBody_iff.mp taken⟩
  · rintro ⟨unbroken, line, headers, start, lines, started, announced⟩ rest
    refine ⟨⟨start, headers, body⟩, ?_, rfl⟩
    rw [List.append_assoc]
    exact parseMessage_of_ok (readHead_of_unbroken unbroken (body ++ rest)) lines started
      (readBody_iff.mpr announced)

omit [TextOf] [NumberText] [TextCase] [TextDecoding] in
theorem framesBody_map {First Second : Type}
    (parse : Bytes → Except WireFailure (First × Bytes)) (convert : First → Second)
    {bodyOf : First → Bytes} {convertedBody : Second → Bytes}
    (kept : ∀ message, convertedBody (convert message) = bodyOf message)
    (sent body : Bytes) :
    FramesBody (fun stream => (parse stream).map fun read => (convert read.1, read.2))
        convertedBody sent body ↔ FramesBody parse bodyOf sent body := by
  constructor
  · intro frames rest
    rcases frames rest with ⟨converted, parsed, same⟩
    dsimp only at parsed
    cases read : parse (sent ++ rest) with
    | error failure =>
        rw [read] at parsed
        cases parsed
    | ok message =>
        rw [read] at parsed
        cases parsed
        exact ⟨message.1, rfl, (kept message.1).symm.trans same⟩
  · intro frames rest
    rcases frames rest with ⟨message, parsed, same⟩
    refine ⟨convert message, ?_, (kept message).trans same⟩
    dsimp only
    rw [parsed]
    rfl

/-- Requests and responses, whatever their headers and bodies, keep to their frames exactly
if their heads announce their bodies. -/
theorem messages_framed_iff :
    (∀ request : Request,
      FramesBody parseRequest Request.body (serializeRequest request) request.body ↔
        SelfFramed readRequestLine
          (headText (requestLine request) (framedHeaders request.headers request.body))
          request.body) ∧
    ∀ response : WireResponse,
      FramesBody parseResponse WireResponse.body (serializeResponse response)
          response.body ↔
        SelfFramed readStatusLine
          (headText (statusLine response) (framedHeaders response.headers response.body))
          response.body :=
  ⟨fun _ => (framesBody_map (parseMessage readRequestLine) toRequest (fun _ => rfl) _ _).trans
      (framesBody_iff _ _ _),
    fun _ => (framesBody_map (parseMessage readStatusLine) toResponse (fun _ => rfl) _ _).trans
      (framesBody_iff _ _ _)⟩

end Messages

end Agtp.Wire

namespace Agtp.Wire.FramingSamples

open scoped Plain

scoped instance : NumberText where
  intOfText text := (text.toList.foldlM
    (fun value (digit : Char) =>
      if digit.isDigit then some (10 * value + (digit.toNat - '0'.toNat)) else none)
    0).map Int.ofNat
  intOfFloat := fun _ => none

def stale : WireResponse := ⟨200, "OK", .ofList [("Content-Length", "1")], [65, 66]⟩

/-- The reader takes one byte, and the other one is read as the next message. -/
theorem stale_length_splits_body :
    (parseResponse (serializeResponse stale)).toOption.map
        (fun read => (read.1.body, read.2)) = some ([65], [66]) ∧
      ¬FramesBody parseResponse WireResponse.body (serializeResponse stale) stale.body := by
  have parsed : (parseResponse (serializeResponse stale)).toOption.map
      (fun read => (read.1.body, read.2)) = some ([65], [66]) := by decide +kernel
  refine ⟨parsed, fun frames => ?_⟩
  rcases frames [] with ⟨message, read, same⟩
  rw [List.append_nil] at read
  rw [read] at parsed
  exact absurd (congrArg Prod.snd (Option.some.inj parsed)) (List.cons_ne_nil _ _).symm

end Agtp.Wire.FramingSamples
