import Agtp.Core.GatewayProtocol
import Agtp.Foundation.JsonReading

/-! # Frames come back as they were written

However a stream is cut into pieces, its reader takes one frame after the other off it. -/

namespace Agtp.GatewayProtocol

open JsonText (Limits Excess)

/-! ## Lengths -/

theorem length_pack (length : Nat) : (pack length).length = lengthHeaderSize :=
  BigEndian.length_toBytes _ _

theorem unpack_pack {length : Nat} (bounded : length < 2 ^ 32) : unpack (pack length) = length :=
  BigEndian.fromBytes_toBytes bounded

/-! ## Streams -/

namespace Reader

theorem read_bytes (reader : Reader) (count : Nat) :
    (reader.read count).1 ++ (reader.read count).2.bytes = reader.bytes := by
  rcases reader with ⟨_ | ⟨chunk, rest⟩, filled⟩
  · rfl
  · unfold read
    dsimp only
    split
    · rfl
    · have whole : chunk.take count ++ (chunk.drop count ++ rest.flatten) =
          chunk ++ rest.flatten := by
        rw [← List.append_assoc, List.take_append_drop]
      exact whole

theorem read_length (reader : Reader) (count : Nat) :
    (reader.read count).1.length ≤ count := by
  rcases reader with ⟨_ | ⟨chunk, rest⟩, filled⟩
  · exact Nat.zero_le _
  · unfold read
    dsimp only
    split
    · assumption
    · exact List.length_take_le ..

theorem bytes_of_read_nil {reader : Reader} {count : Nat} (positive : count ≠ 0)
    (none : (reader.read count).1 = []) : reader.bytes = [] := by
  rcases reader with ⟨_ | ⟨chunk, rest⟩, filled⟩
  · rfl
  · have some := filled chunk List.mem_cons_self
    unfold read at none
    dsimp only at none
    split at none
    · exact absurd none some
    · rcases List.take_eq_nil_iff.mp none with zero | nil
      · exact absurd zero positive
      · exact absurd nil some

end Reader

theorem readExact_spec (expected remaining : Nat) (reader : Reader) :
    (remaining ≤ reader.bytes.length →
      (readExact expected remaining reader).1 = .ok (reader.bytes.take remaining) ∧
        (readExact expected remaining reader).2.bytes = reader.bytes.drop remaining) ∧
      (reader.bytes.length < remaining →
        (∃ message, (readExact expected remaining reader).1 = .error (.decode message)) ∧
          (readExact expected remaining reader).2.bytes = []) := by
  induction remaining using Nat.strongRecOn generalizing reader with
  | ind remaining induction =>
      unfold readExact
      by_cases zero : remaining = 0
      · rw [if_pos zero]
        subst zero
        exact ⟨fun _ => ⟨rfl, rfl⟩, fun below => absurd below (Nat.not_lt_zero _)⟩
      · rw [if_neg zero]
        dsimp only
        have whole := reader.read_bytes remaining
        have short := reader.read_length remaining
        by_cases none : (reader.read remaining).1 = []
        · rw [if_pos none]
          have ended := Reader.bytes_of_read_nil zero none
          rw [none, List.nil_append, ended] at whole
          refine ⟨fun within => ?_, fun _ => ⟨⟨_, rfl⟩, whole⟩⟩
          rw [ended] at within
          exact absurd (Nat.le_zero.mp within) zero
        · rw [if_neg none]
          have positive := List.length_pos_iff.mpr none
          have rest := induction (remaining - (reader.read remaining).1.length) (by omega)
            (reader.read remaining).2
          generalize (reader.read remaining).1 = chunk at *
          generalize (reader.read remaining).2 = after at *
          rw [← whole, List.length_append]
          constructor
          · intro within
            have parts := rest.1 (by omega)
            rw [parts.1, parts.2, List.take_append, List.drop_append,
              List.take_of_length_le short, List.drop_of_length_le short]
            exact ⟨rfl, rfl⟩
          · intro beyond
            rcases rest.2 (by omega) with ⟨⟨message, failed⟩, ended⟩
            rw [failed, ended]
            exact ⟨⟨message, rfl⟩, rfl⟩

/-! ## Frames on a stream -/

def announcedLength (bytes : Bytes) : Nat :=
  if lengthHeaderSize ≤ bytes.length then unpack (bytes.take lengthHeaderSize) else 0

def announcedBody (bytes : Bytes) : Option Bytes :=
  let length := announcedLength bytes
  if 0 < length ∧ length ≤ maxFrameSize ∧ lengthHeaderSize + length ≤ bytes.length then
    some ((bytes.drop lengthHeaderSize).take length)
  else none

def FrameFailure.isFrameError : FrameFailure → Prop
  | decode _ | tooLarge _ => True
  | escaped _ => False

section Streams

variable [Floats] [FrameText] {limits : Limits}

theorem readFrame_announced {reader : Reader} {body : Bytes}
    (announced : announcedBody reader.bytes = some body) :
    (readFrame limits reader).1 = parseBody limits body ∧
      (readFrame limits reader).2.bytes =
        reader.bytes.drop (lengthHeaderSize + announcedLength reader.bytes) := by
  unfold announcedBody at announced
  dsimp only at announced
  split at announced
  · next permitted =>
      cases announced
      have header := (readExact_spec lengthHeaderSize lengthHeaderSize reader).1 (by omega)
      have length : announcedLength reader.bytes = unpack (reader.bytes.take lengthHeaderSize) :=
        if_pos (by omega)
      unfold readFrame
      generalize readExact lengthHeaderSize lengthHeaderSize reader = first at *
      rcases first with ⟨result, after⟩
      rw [show result = .ok _ from header.1]
      dsimp only at header ⊢
      rw [← length, if_neg (by omega), if_neg (by omega)]
      have enough : announcedLength reader.bytes ≤ after.bytes.length := by
        rw [header.2, List.length_drop]
        omega
      have taken := (readExact_spec (announcedLength reader.bytes)
        (announcedLength reader.bytes) after).1 enough
      rw [header.2] at taken
      generalize readExact (announcedLength reader.bytes) (announcedLength reader.bytes) after =
        second at *
      rcases second with ⟨result, last⟩
      rw [show result = .ok _ from taken.1]
      exact ⟨rfl, taken.2.trans (List.drop_drop ..)⟩
  · cases announced

theorem readFrame_refused {reader : Reader} (refused : announcedBody reader.bytes = none) :
    (∃ failure, (readFrame limits reader).1 = .error failure ∧ failure.isFrameError) ∧
      ∃ dropped ≤ lengthHeaderSize + announcedLength reader.bytes,
        (readFrame limits reader).2.bytes = reader.bytes.drop dropped := by
  have header := readExact_spec lengthHeaderSize lengthHeaderSize reader
  unfold readFrame
  by_cases short : reader.bytes.length < lengthHeaderSize
  · have missing := header.2 short
    generalize readExact lengthHeaderSize lengthHeaderSize reader = first at *
    rcases first with ⟨result, after⟩
    rcases missing with ⟨⟨message, failed⟩, ended⟩
    rw [show result = .error _ from failed]
    refine ⟨⟨_, rfl, trivial⟩, reader.bytes.length, by omega, ?_⟩
    rw [List.drop_length]
    exact ended
  · have whole := header.1 (by omega)
    have length : announcedLength reader.bytes = unpack (reader.bytes.take lengthHeaderSize) :=
      if_pos (by omega)
    generalize readExact lengthHeaderSize lengthHeaderSize reader = first at *
    rcases first with ⟨result, after⟩
    rw [show result = .ok _ from whole.1]
    dsimp only at whole ⊢
    rw [← length]
    by_cases tooLarge : maxFrameSize < announcedLength reader.bytes
    · rw [if_pos tooLarge]
      exact ⟨⟨_, rfl, trivial⟩, lengthHeaderSize, by omega, whole.2⟩
    rw [if_neg tooLarge]
    by_cases empty : announcedLength reader.bytes = 0
    · rw [if_pos empty]
      exact ⟨⟨_, rfl, trivial⟩, lengthHeaderSize, by omega, whole.2⟩
    rw [if_neg empty]
    have cut : after.bytes.length < announcedLength reader.bytes := by
      unfold announcedBody at refused
      dsimp only at refused
      split at refused
      · cases refused
      · rw [whole.2, List.length_drop]
        omega
    have missing := (readExact_spec (announcedLength reader.bytes)
      (announcedLength reader.bytes) after).2 cut
    have bound := congrArg List.length whole.2
    rw [List.length_drop] at bound
    generalize readExact (announcedLength reader.bytes) (announcedLength reader.bytes) after =
      second at *
    rcases second with ⟨result, last⟩
    rcases missing with ⟨⟨message, failed⟩, ended⟩
    rw [show result = .error _ from failed]
    refine ⟨⟨_, rfl, trivial⟩, reader.bytes.length, by omega, ?_⟩
    rw [List.drop_length]
    exact ended

/-! ## Outcomes -/

def Settles (limits : Limits) (reader : Reader) : Prop :=
  (∃ members, (readFrame limits reader).1 = .ok members ∧
      (Json.member members "type").isSome = true) ∨
    ∃ failure, (readFrame limits reader).1 = .error failure ∧ failure.isFrameError

def Exhausts (limits : Limits) (bytes : Bytes) : Prop :=
  ∃ body text, announcedBody bytes = some body ∧ Utf8.decode? body = some text ∧
    JsonText.Overruns limits text

theorem parseBody_ok {body : Bytes} {members : List (String × Json)}
    (parsed : parseBody limits body = .ok members) :
    (Json.member members "type").isSome = true := by
  unfold parseBody at parsed
  split at parsed
  · cases parsed
  · split at parsed
    · cases parsed
    · cases parsed
    · split at parsed
      · cases parsed
      · next typed =>
          cases parsed
          rw [typed]
          rfl
    · cases parsed

theorem parseBody_escaped_iff (body : Bytes) :
    (∃ kind, parseBody limits body = .error (.escaped kind)) ↔
      ∃ text, Utf8.decode? body = some text ∧ JsonText.Overruns limits text := by
  unfold parseBody
  cases decoded : Utf8.decode? body with
  | none => exact ⟨nofun, nofun⟩
  | some text =>
      dsimp only
      have overruns := @JsonText.loads_excess_iff limits _ text
      constructor
      · intro ⟨kind, escaped⟩
        refine ⟨text, rfl, overruns.mp ?_⟩
        split at escaped
        · cases escaped
        · next raised => exact ⟨_, raised⟩
        · split at escaped <;> cases escaped
        · cases escaped
      · intro ⟨_, same, beyond⟩
        cases same
        rcases overruns.mpr beyond with ⟨kind, raised⟩
        rw [raised]
        exact ⟨kind, rfl⟩

theorem settles_iff (reader : Reader) :
    Settles limits reader ↔ ¬Exhausts limits reader.bytes := by
  unfold Settles Exhausts
  cases announced : announcedBody reader.bytes with
  | none =>
      have refused := (@readFrame_refused _ _ limits reader announced).1
      exact ⟨fun _ => nofun, fun _ => .inr refused⟩
  | some body =>
      have escaped := @parseBody_escaped_iff _ _ limits body
      rw [(readFrame_announced announced).1]
      constructor
      · intro settles
        rintro ⟨_, text, same, decoded, beyond⟩
        cases same
        rcases escaped.mpr ⟨text, decoded, beyond⟩ with ⟨kind, raised⟩
        rw [raised] at settles
        rcases settles with ⟨members, read, _⟩ | ⟨failure, raised, frameError⟩
        · cases read
        · cases raised
          exact frameError
      · intro within
        cases parsed : parseBody limits body with
        | ok members => exact .inl ⟨members, rfl, parseBody_ok parsed⟩
        | error failure =>
            refine .inr ⟨failure, rfl, ?_⟩
            cases failure with
            | decode message => trivial
            | tooLarge message => trivial
            | escaped kind =>
                rcases escaped.mp ⟨kind, parsed⟩ with ⟨text, decoded, beyond⟩
                exact within ⟨body, text, rfl, decoded, beyond⟩

theorem readFrame_consumes (reader : Reader) :
    ∃ consumed, reader.bytes = consumed ++ (readFrame limits reader).2.bytes ∧
      consumed.length ≤ lengthHeaderSize + announcedLength reader.bytes := by
  have dropped : ∃ dropped ≤ lengthHeaderSize + announcedLength reader.bytes,
      (readFrame limits reader).2.bytes = reader.bytes.drop dropped := by
    cases announced : announcedBody reader.bytes with
    | none => exact (readFrame_refused announced).2
    | some body => exact ⟨_, le_rfl, (readFrame_announced announced).2⟩
  rcases dropped with ⟨dropped, bounded, left⟩
  refine ⟨reader.bytes.take dropped, ?_, (List.length_take_le ..).trans bounded⟩
  rw [left, List.take_append_drop]

/-! ## Round trips -/

/-- An object with a type, as Python holds it. -/
structure Frame where
  members : List (String × Json)
  held : JsonText.Held (.object members)
  typed : (Json.member members "type").isSome = true

omit [Floats] [FrameText] in
theorem writeFrame_ok {writer : Limits} {payload : List (String × Json)} {sent : Bytes}
    (written : writeFrame writer payload = .ok sent) :
    ∃ body, body = Utf8.encode (JsonText.text (.object payload)) ∧
      body.length ≤ maxFrameSize ∧ sent = pack body.length ++ body := by
  unfold writeFrame at written
  split at written
  · cases written
  · split at written
    · cases written
    · next dumped =>
        unfold JsonText.dumps at dumped
        split at dumped
        · cases dumped
        · cases dumped
          dsimp only at written
          split at written
          · cases written
          · cases written
            exact ⟨_, rfl, by omega, rfl⟩

omit [Floats] [FrameText] in
theorem encode_text_ne (payload : List (String × Json)) :
    0 < (Utf8.encode (JsonText.text (.object payload))).length := by
  have brace : ∃ rest, JsonText.text (.object payload) = '\x7b' :: rest := by
    cases payload with
    | nil => exact ⟨_, by rw [JsonText.text]⟩
    | cons member members =>
        rcases member with ⟨key, value⟩
        exact ⟨_, by rw [JsonText.text]; rfl⟩
  rcases brace with ⟨rest, same⟩
  rw [same, Utf8.encode_cons, Utf8.encodeChar_ascii (by decide)]
  exact Nat.succ_pos _

omit [Floats] [FrameText] in
theorem announced_pack {body : Bytes} (some : 0 < body.length)
    (bounded : body.length ≤ maxFrameSize) (rest : Bytes) :
    announcedLength (pack body.length ++ body ++ rest) = body.length ∧
      announcedBody (pack body.length ++ body ++ rest) = .some body := by
  have size : maxFrameSize < 2 ^ 32 := by decide
  have whole : pack body.length ++ body ++ rest = pack body.length ++ (body ++ rest) :=
    List.append_assoc ..
  have length : announcedLength (pack body.length ++ body ++ rest) = body.length := by
    rw [announcedLength, whole, List.length_append, length_pack, if_pos (by omega)]
    exact unpack_pack (bounded.trans_lt size)
  refine ⟨length, ?_⟩
  unfold announcedBody
  dsimp only
  have enough : lengthHeaderSize + body.length ≤
      (pack body.length ++ body ++ rest).length := by
    rw [List.length_append, List.length_append, length_pack]
    omega
  have behind : (pack body.length ++ body ++ rest).drop lengthHeaderSize = body ++ rest := by
    rw [whole]
    rfl
  rw [length, if_pos ⟨some, bounded, enough⟩, behind, List.take_left]

theorem readFrame_written {writer : Limits} {frame : Frame} {sent rest : Bytes}
    {reader : Reader} (written : writeFrame writer frame.members = .ok sent)
    (stream : reader.bytes = sent ++ rest) :
    (readFrame limits reader).1 =
        (match JsonText.firstExcess limits 0 (.object frame.members) with
          | some kind => .error (.escaped kind)
          | none => .ok frame.members) ∧
      (readFrame limits reader).2.bytes = rest := by
  rcases writeFrame_ok written with ⟨body, encoded, bounded, rfl⟩
  have some : 0 < body.length := encoded ▸ encode_text_ne frame.members
  have announced := announced_pack some bounded rest
  rw [← stream] at announced
  have read := @readFrame_announced _ _ limits reader body announced.2
  rw [announced.1] at read
  constructor
  · rw [read.1, parseBody, encoded, Utf8.decode?_encode]
    dsimp only
    rw [JsonText.loads_text frame.held]
    cases JsonText.firstExcess limits 0 (.object frame.members) with
    | some kind => rfl
    | none =>
        dsimp only
        rcases Option.isSome_iff_exists.mp frame.typed with ⟨value, typed⟩
        rw [typed]
  · rw [read.2, stream, List.append_assoc]
    have front : lengthHeaderSize + body.length = (pack body.length ++ body).length := by
      rw [List.length_append, length_pack]
    rw [front, ← List.append_assoc, List.drop_left]

theorem readFrames_written {writer : Limits} {frames : List Frame} {sent rest : Bytes}
    {reader : Reader}
    (written : writeFrames writer (frames.map Frame.members) = .ok sent)
    (stream : reader.bytes = sent ++ rest) :
    (∃ last, readFrames limits frames.length reader = (.ok (frames.map Frame.members), last) ∧
        last.bytes = rest) ↔
      ∀ frame ∈ frames, JsonText.firstExcess limits 0 (.object frame.members) = none := by
  induction frames generalizing sent reader with
  | nil =>
      cases written
      exact ⟨fun _ => nofun, fun _ => ⟨reader, rfl, stream⟩⟩
  | cons frame frames induction =>
      rw [List.map_cons, writeFrames] at written
      cases first : writeFrame writer frame.members with
      | error failure =>
          rw [first] at written
          cases written
      | ok piece =>
          rw [first] at written
          cases others : writeFrames writer (frames.map Frame.members) with
          | error failure =>
              dsimp only at written
              rw [others] at written
              cases written
          | ok pieces =>
              dsimp only at written
              rw [others] at written
              cases written
              rw [List.append_assoc] at stream
              have read := @readFrame_written _ _ limits _ _ _ _ _ first stream
              rw [List.forall_mem_cons, List.length_cons, readFrames, List.map_cons]
              generalize readFrame limits reader = taken at *
              rcases taken with ⟨result, after⟩
              rcases read with ⟨rfl, left⟩
              cases JsonText.firstExcess limits 0 (.object frame.members) with
              | some kind => exact ⟨nofun, nofun⟩
              | none =>
                  dsimp only
                  rw [← induction others left]
                  constructor
                  · rintro ⟨last, all, ended⟩
                    refine ⟨rfl, last, ?_, ended⟩
                    generalize readFrames limits frames.length after = more at *
                    rcases more with ⟨_ | frames, final⟩
                    · cases all
                    · cases all
                      rfl
                  · rintro ⟨_, last, all, ended⟩
                    refine ⟨last, ?_, ended⟩
                    rw [all]
                    rfl

/-- Frames come back in order and off exactly their bytes, and every stream whatever yields
an object with a type or a frame error, unless what is read goes beyond the limits. -/
theorem framing_iff (limits : Limits) :
    (∀ (writer : Limits) (frames : List Frame) (sent rest : Bytes) (reader : Reader),
      writeFrames writer (frames.map Frame.members) = .ok sent →
      reader.bytes = sent ++ rest →
      ((∃ last, readFrames limits frames.length reader =
          (.ok (frames.map Frame.members), last) ∧ last.bytes = rest) ↔
        ∀ frame ∈ frames, JsonText.firstExcess limits 0 (.object frame.members) = none)) ∧
    (∀ reader, Settles limits reader ↔ ¬Exhausts limits reader.bytes) ∧
    ∀ reader : Reader, ∃ consumed,
      reader.bytes = consumed ++ (readFrame limits reader).2.bytes ∧
        consumed.length ≤ lengthHeaderSize + announcedLength reader.bytes :=
  ⟨fun _ _ _ _ _ => readFrames_written, settles_iff, readFrame_consumes⟩

end Streams

end Agtp.GatewayProtocol

namespace Agtp.GatewayProtocol.FramingSamples

open scoped Plain

scoped instance : FrameText where
  notUtf8 := fun _ => ""
  notJson := fun _ => ""

def usual : JsonText.Limits := ⟨4300, 900⟩

def ping : Frame where
  members := [("type", .string "ping")]
  held := .object (by decide) (by
    intro member within
    cases List.mem_singleton.mp within
    exact .string "ping")
  typed := by decide

def pieces : Reader where
  chunks := [[0, 0, 0], 15 :: Utf8.encode "\x7b\"type\":\"ping\"\x7d".toList ++ [0]]
  filled := by decide

theorem ping_returns :
    ∃ last, readFrames usual 1 pieces = (.ok [ping.members], last) ∧ last.bytes = [0] :=
  ((framing_iff usual).1 usual [ping] _ [0] pieces rfl (by rfl)).mpr (by
    intro frame member
    cases List.mem_singleton.mp member
    rfl)

/-! An integer of 4301 digits, which other implementations write -/

def numbered (value : Nat) : List (String × Json) := [("type", .int value)]

theorem numbered_held (value : Nat) : JsonText.Held (.object (numbered value)) :=
  .object (List.nodup_singleton _) (by
    intro member within
    cases List.mem_singleton.mp within
    exact .int value)

def numberedBody (value : Nat) : Bytes :=
  Utf8.encode (JsonText.text (.object (numbered value)))

def numberedStream (value : Nat) : Reader where
  chunks := [pack (numberedBody value).length ++ numberedBody value]
  filled := by
    intro chunk member
    cases List.mem_singleton.mp member
    exact List.cons_ne_nil _ _

section Digits

variable {value : Nat} (digits : (Nat.toDigits 10 value).length = 4301)

include digits

theorem numbered_excess :
    JsonText.firstExcess usual 0 (.object (numbered value)) = some .digits := by
  have length : (toString value).length = (Nat.toDigits 10 value).length :=
    congrArg List.length Nat.toList_repr
  have long : usual.tooLong (toString (Int.natAbs value)).length = true := by
    rw [Int.natAbs_natCast, length, digits]
    rfl
  rw [numbered, JsonText.firstExcess, if_neg (by decide), JsonText.membersExcess,
    JsonText.firstExcess, if_pos long]
  rfl

theorem numberedBody_bounded : (numberedBody value).length ≤ maxFrameSize := by
  have bytes (text : List Char) : (Utf8.encode text).length ≤ 4 * text.length := by
    induction text with
    | nil => exact le_rfl
    | cons character rest induction =>
        have one := character.utf8Size_le_four
        rw [Utf8.encode_cons, List.length_append, String.length_utf8EncodeChar,
          List.length_cons]
        omega
  have natural : ¬(value : Int) < 0 := not_lt.mpr (Int.natCast_nonneg value)
  have written : (toString (value : Int)).toList.length = 4301 := by
    rw [JsonText.toString_int, decide_eq_false natural, Int.natAbs_natCast]
    exact digits
  have key : (JsonText.quoted "type").length = 6 := rfl
  have whole : (JsonText.text (.object (numbered value))).length = 4310 := by
    rw [numbered, JsonText.text, JsonText.moreMembers, JsonText.text]
    simp only [List.length_append, List.length_cons, List.length_nil, written, key]
  have bound := bytes (JsonText.text (.object (numbered value)))
  rw [whole] at bound
  exact bound.trans (by decide)

theorem numbered_escapes :
    (readFrame usual (numberedStream value)).1 = .error (.escaped .digits) := by
  have stream : (numberedStream value).bytes =
      pack (numberedBody value).length ++ numberedBody value ++ [] := by
    rw [Reader.bytes, numberedStream, List.flatten_cons, List.flatten_nil]
  have some : 0 < (numberedBody value).length := encode_text_ne (numbered value)
  have announced := (announced_pack some (numberedBody_bounded digits) []).2
  rw [← stream] at announced
  rw [(readFrame_announced announced).1, parseBody, numberedBody, Utf8.decode?_encode]
  dsimp only
  rw [JsonText.loads_text (numbered_held value), numbered_excess digits]

end Digits

theorem digits_pow (exponent : Nat) :
    (Nat.toDigits 10 (10 ^ exponent)).length = exponent + 1 := by
  have atLeast : ¬(Nat.toDigits 10 (10 ^ exponent)).length ≤ exponent := by
    rcases Nat.eq_zero_or_pos exponent with rfl | positive
    · decide
    · rw [Nat.length_toDigits_le_iff (by decide) positive]
      exact lt_irrefl _
  have atMost : (Nat.toDigits 10 (10 ^ exponent)).length ≤ exponent + 1 := by
    rw [Nat.length_toDigits_le_iff (by decide) (Nat.succ_pos _)]
    exact Nat.pow_lt_pow_right (by decide) (Nat.lt_succ_self _)
  omega

/-- The integer raises an exception that is neither of the frame errors. -/
theorem wide_integer_escapes : ¬Settles usual (numberedStream (10 ^ 4300)) := by
  have raised := numbered_escapes (digits_pow 4300)
  unfold Settles
  rw [raised]
  rintro (⟨members, read, _⟩ | ⟨failure, same, frameError⟩)
  · cases read
  · cases same
    exact frameError

end Agtp.GatewayProtocol.FramingSamples
