import Agtp.Foundation.JsonText

/-! # Reading what was written

The reader takes the text of a value for that value, or raises what the limits forbid in it,
whatever follows. A text is beyond the limits exactly if some beginning of it is. -/

namespace Agtp.JsonText

/-! ## Texts -/

theorem hexValue_digitChar : ∀ value < 16,
    PercentEncoding.hexValue value.digitChar = some value := by
  decide

theorem hex4_hexText {code : Nat} (small : code < 0x10000) (rest : List Char) :
    hex4 (hexText code ++ rest) = some (code, rest) := by
  unfold hex4 hexText
  simp only [List.cons_append, List.nil_append]
  rw [hexValue_digitChar _ (by omega), hexValue_digitChar _ (by omega),
    hexValue_digitChar _ (by omega), hexValue_digitChar _ (by omega)]
  have value : 4096 * (code / 4096) + 256 * (code / 256 % 16) + 16 * (code / 16 % 16) +
      code % 16 = code := by omega
  exact congrArg (fun code => some (code, rest)) value

theorem not_surrogate (character : Char) :
    isHighSurrogate character.toNat = false ∧ isLowSurrogate character.toNat = false := by
  have code : character.toNat = character.val.toNat := rfl
  have valid := character.valid
  unfold UInt32.isValidChar Nat.isValidChar at valid
  unfold isHighSurrogate isLowSurrogate
  simp only [Bool.and_eq_false_iff, decide_eq_false_iff_not]
  omega

theorem scanCode_basic {character : Char} (small : character.toNat < 0x10000)
    (rest : List Char) :
    scanCode (hexText character.toNat ++ rest) = some (character, rest) := by
  have surrogate := not_surrogate character
  unfold scanCode
  rw [hex4_hexText small]
  dsimp only
  rw [surrogate.1, characterOf, surrogate.1, surrogate.2, Char.ofNat_toNat]
  rfl

theorem scanCode_surrogates {high low : Nat} (isHigh : isHighSurrogate high = true)
    (isLow : isLowSurrogate low = true) (rest : List Char) :
    scanCode (hexText high ++ (escapeCode low ++ rest)) =
      some (Char.ofNat (0x10000 + 1024 * (high - 0xD800) + (low - 0xDC00)), rest) := by
  have bounds : high < 0x10000 ∧ low < 0x10000 := by
    simp only [isHighSurrogate, isLowSurrogate, Bool.and_eq_true, decide_eq_true_eq]
      at isHigh isLow
    omega
  have second : lowSurrogate (escapeCode low ++ rest) = some (low, rest) := by
    unfold escapeCode lowSurrogate
    rw [List.cons_append, List.cons_append]
    simp only [hex4_hexText bounds.2, Option.filter_some, isLow, if_true]
  unfold scanCode
  rw [hex4_hexText bounds.1]
  dsimp only
  rw [if_pos isHigh, second]

theorem scanCode_pair {character : Char} (large : 0x10000 ≤ character.toNat)
    (rest : List Char) :
    scanCode (hexText (0xD800 + (character.toNat - 0x10000) / 1024) ++
        (escapeCode (0xDC00 + (character.toNat - 0x10000) % 1024) ++ rest)) =
      some (character, rest) := by
  have bound : character.toNat < 0x110000 := by
    have code : character.toNat = character.val.toNat := rfl
    have valid := character.valid
    unfold UInt32.isValidChar Nat.isValidChar at valid
    omega
  have isHigh : isHighSurrogate (0xD800 + (character.toNat - 0x10000) / 1024) = true := by
    simp only [isHighSurrogate, Bool.and_eq_true, decide_eq_true_eq]
    omega
  have isLow : isLowSurrogate (0xDC00 + (character.toNat - 0x10000) % 1024) = true := by
    simp only [isLowSurrogate, Bool.and_eq_true, decide_eq_true_eq]
    omega
  have joined : 0x10000 +
      1024 * (0xD800 + (character.toNat - 0x10000) / 1024 - 0xD800) +
        (0xDC00 + (character.toNat - 0x10000) % 1024 - 0xDC00) = character.toNat := by
    omega
  rw [scanCode_surrogates isHigh isLow, joined, Char.ofNat_toNat]

theorem scanCharacter_code (text : List Char) :
    scanCharacter '\\' ('u' :: text) = scanCode text := by
  unfold scanCharacter
  rw [if_pos rfl]
  dsimp only
  rw [if_pos rfl]

theorem scanCharacter_escape (character : Char) :
    ∃ first tail, escape character = first :: tail ∧ first ≠ '"' ∧
      ∀ rest, scanCharacter first (tail ++ rest) = some (character, rest) := by
  unfold escape
  dsimp only
  split
  · next same =>
      subst same
      exact ⟨_, _, rfl, by decide, fun _ => rfl⟩
  split
  · next same =>
      subst same
      exact ⟨_, _, rfl, by decide, fun _ => rfl⟩
  split
  · next same =>
      subst same
      exact ⟨_, _, rfl, by decide, fun _ => rfl⟩
  split
  · next same =>
      subst same
      exact ⟨_, _, rfl, by decide, fun _ => rfl⟩
  split
  · next same =>
      subst same
      exact ⟨_, _, rfl, by decide, fun _ => rfl⟩
  split
  · next same =>
      subst same
      exact ⟨_, _, rfl, by decide, fun _ => rfl⟩
  split
  · next same =>
      subst same
      exact ⟨_, _, rfl, by decide, fun _ => rfl⟩
  split
  · next notQuote notBackslash _ _ _ _ _ printable =>
      refine ⟨character, [], rfl, notQuote, fun rest => ?_⟩
      unfold scanCharacter
      rw [if_neg notBackslash, if_neg (by omega)]
      rfl
  split
  · next small =>
      refine ⟨'\\', 'u' :: hexText character.toNat, rfl, by decide, fun rest => ?_⟩
      rw [List.cons_append, scanCharacter_code]
      exact scanCode_basic small rest
  · next large =>
      refine ⟨'\\', 'u' :: (hexText (0xD800 + (character.toNat - 0x10000) / 1024) ++
        escapeCode (0xDC00 + (character.toNat - 0x10000) % 1024)), rfl, by decide,
        fun rest => ?_⟩
      rw [List.cons_append, scanCharacter_code, List.append_assoc]
      exact scanCode_pair (by omega) rest

theorem scanString_cons {first character : Char} {tail after : List Char}
    (other : first ≠ '"') (scanned : scanCharacter first tail = some (character, after)) :
    scanString (first :: tail) =
      (scanString after).map fun more => (character :: more.1, more.2) := by
  rw [scanString.eq_def]
  dsimp only
  rw [if_neg other]
  split
  · next found =>
      rw [scanned] at found
      cases found
  · next found =>
      rw [scanned] at found
      cases found
      rfl

theorem scanString_escaped (characters rest : List Char) :
    scanString (characters.flatMap escape ++ '"' :: rest) = some (characters, rest) := by
  induction characters with
  | nil => rw [List.flatMap_nil, List.nil_append, scanString, if_pos rfl]
  | cons character more induction =>
      rcases scanCharacter_escape character with ⟨first, tail, written, other, scanned⟩
      rw [List.flatMap_cons, written, List.cons_append, List.cons_append, List.append_assoc,
        scanString_cons other (scanned _), induction]
      rfl

/-! ## Numbers -/

/-- What may follow a value in a text. -/
def Ends (rest : List Char) : Prop :=
  ∀ character ∈ rest.head?, character = ',' ∨ character = ']' ∨ character = '\x7d'

theorem ends_nil : Ends [] := nofun

theorem ends_cons {character : Char}
    (delimits : character = ',' ∨ character = ']' ∨ character = '\x7d') (rest : List Char) :
    Ends (character :: rest) := by
  intro first same
  cases same
  exact delimits

/-- What may follow a number: that, or the end of a line. -/
def Stops (rest : List Char) : Prop :=
  ∀ character ∈ rest.head?,
    character = ',' ∨ character = ']' ∨ character = '\x7d' ∨ character = '\n'

theorem Ends.stops {rest : List Char} (ends : Ends rest) : Stops rest :=
  fun character first => (ends character first).imp_right (·.imp_right .inl)

theorem Stops.not_digit {rest : List Char} (stops : Stops rest) {character : Char}
    (first : character ∈ rest.head?) : character.isDigit = false := by
  rcases stops character first with rfl | rfl | rfl | rfl <;> rfl

theorem Stops.takeWhile {rest : List Char} (stops : Stops rest) (front : List Char) :
    (front ++ rest).takeWhile Char.isDigit = front.takeWhile Char.isDigit := by
  induction front with
  | nil =>
      cases rest with
      | nil => rfl
      | cons character more =>
          have notDigit := stops.not_digit rfl
          simp [notDigit]
  | cons digit front induction => simp [List.takeWhile_cons, induction]

theorem Stops.dropWhile {rest : List Char} (stops : Stops rest) (front : List Char) :
    (front ++ rest).dropWhile Char.isDigit = front.dropWhile Char.isDigit ++ rest := by
  induction front with
  | nil =>
      cases rest with
      | nil => rfl
      | cons character more =>
          have notDigit := stops.not_digit rfl
          simp [notDigit]
  | cons digit front induction =>
      rw [List.cons_append, List.dropWhile_cons, List.dropWhile_cons, induction]
      split <;> rfl

section Numbers

variable {rest : List Char}

theorem scanFraction_append (stops : Stops rest) (front : List Char) :
    scanFraction (front ++ rest) = ((scanFraction front).1, (scanFraction front).2 ++ rest) := by
  cases front with
  | nil =>
      cases rest with
      | nil => rfl
      | cons character more =>
          rcases stops character rfl with rfl | rfl | rfl | rfl <;> rfl
  | cons point front =>
      by_cases same : point = '.'
      · subst same
        simp only [List.cons_append, scanFraction, stops.takeWhile, stops.dropWhile]
        split <;> rfl
      · have neither (text : List Char) : scanFraction (point :: text) = ([], point :: text) := by
          unfold scanFraction
          split
          · next same =>
              cases same
              exact absurd rfl same
          · rfl
        rw [List.cons_append, neither, neither, List.cons_append]

theorem scanSign_append (stops : Stops rest) (front : List Char) :
    scanSign (front ++ rest) = ((scanSign front).1, (scanSign front).2 ++ rest) := by
  cases front with
  | nil =>
      cases rest with
      | nil => rfl
      | cons character more =>
          rcases stops character rfl with rfl | rfl | rfl | rfl <;> rfl
  | cons sign front =>
      simp only [List.cons_append, scanSign]
      split <;> rfl

theorem scanExponent_append (stops : Stops rest) (front : List Char) :
    scanExponent (front ++ rest) =
      ((scanExponent front).1, (scanExponent front).2 ++ rest) := by
  cases front with
  | nil =>
      cases rest with
      | nil => rfl
      | cons character more =>
          rcases stops character rfl with rfl | rfl | rfl | rfl <;> rfl
  | cons mark front =>
      simp only [List.cons_append, scanExponent, scanSign_append stops, stops.takeWhile,
        stops.dropWhile]
      split <;> rfl

theorem scanWhole_append (stops : Stops rest) (front : List Char) :
    scanWhole (front ++ rest) =
      (scanWhole front).map fun read => (read.1, read.2 ++ rest) := by
  cases front with
  | nil =>
      cases rest with
      | nil => rfl
      | cons character more =>
          rcases stops character rfl with rfl | rfl | rfl | rfl <;> rfl
  | cons digit front =>
      simp only [List.cons_append, scanWhole, stops.takeWhile, stops.dropWhile]
      split
      · rfl
      · split <;> rfl

theorem scanUnsigned_append [Floats] (stops : Stops rest) (negative : Bool) (front : List Char) :
    scanUnsigned negative (front ++ rest) =
      (scanUnsigned negative front).map fun read => (read.1, read.2 ++ rest) := by
  unfold scanUnsigned
  rw [scanWhole_append stops]
  cases scanWhole front with
  | none => rfl
  | some whole =>
      rw [Option.map_some]
      dsimp only
      rw [scanFraction_append stops]
      dsimp only
      rw [scanExponent_append stops]
      dsimp only
      split <;> rfl

end Numbers

/-! ## Tokens -/

section Tokens

variable [Floats]

theorem tokens_nil : tokens [] = [] := by
  rw [tokens]

theorem tokens_scan {first : Char} {rest after : List Char} {token : Token}
    (solid : isBlank first = false) (scanned : scan first rest = some (token, after)) :
    tokens (first :: rest) = token :: tokens after := by
  rw [tokens.eq_def]
  dsimp only
  rw [solid, if_neg (by decide)]
  split
  · next found =>
      rw [scanned] at found
      cases found
  · next found =>
      rw [scanned] at found
      cases found
      rfl

theorem tokens_punctuation {first : Char} {token : Token} (solid : isBlank first = false)
    (mark : punctuation first = some token) (rest : List Char) :
    tokens (first :: rest) = token :: tokens rest := by
  apply tokens_scan solid
  unfold scan
  rw [mark]

theorem tokens_word {first : Char} {word : List Char} {value : Json}
    (solid : isBlank first = false) (noMark : punctuation first = none)
    (starts : wordAt first = some (word, value)) (rest : List Char) :
    tokens (first :: (word ++ rest)) = .literal value :: tokens rest := by
  apply tokens_scan solid
  unfold scan
  rw [noMark, starts]
  dsimp only
  rw [scanWord, if_pos (by simp), List.drop_left]

theorem tokens_quoted (value : String) (rest : List Char) :
    tokens (quoted value ++ rest) = .text value :: tokens rest := by
  have whole : quoted value ++ rest = '"' :: (value.toList.flatMap escape ++ '"' :: rest) := by
    simp [quoted]
  rw [whole]
  apply tokens_scan rfl
  have string : scan '"' (value.toList.flatMap escape ++ '"' :: rest) =
      (scanString (value.toList.flatMap escape ++ '"' :: rest)).map
        fun read => (.text (String.ofList read.1), read.2) := rfl
  rw [string, scanString_escaped, Option.map_some]
  dsimp only
  rw [String.ofList_toList]

omit [Floats] in
theorem digit_facts {digit : Char} (isDigit : digit.isDigit = true) :
    isBlank digit = false ∧ punctuation digit = none ∧ wordAt digit = none ∧
      digit ≠ '"' ∧ digit ≠ '-' ∧ digit ≠ 'I' := by
  have codes : ∀ code < 128, (Char.ofNat code).isDigit = true →
      isBlank (Char.ofNat code) = false ∧ (punctuation (Char.ofNat code)).isNone = true ∧
        (wordAt (Char.ofNat code)).isNone = true ∧ Char.ofNat code ≠ '"' ∧
          Char.ofNat code ≠ '-' ∧ Char.ofNat code ≠ 'I' := by
    decide +kernel
  have bound : digit.toNat < 128 := by
    simp only [Char.isDigit, Bool.and_eq_true, decide_eq_true_eq, UInt32.le_iff_toNat_le]
      at isDigit
    have code : digit.toNat = digit.val.toNat := rfl
    have nine : '9'.val.toNat = 57 := rfl
    omega
  have facts := codes digit.toNat bound (by rwa [Char.ofNat_toNat])
  rw [Char.ofNat_toNat] at facts
  exact ⟨facts.1, Option.isNone_iff_eq_none.mp facts.2.1,
    Option.isNone_iff_eq_none.mp facts.2.2.1, facts.2.2.2⟩

omit [Floats] in
theorem scanWhole_digit {text : List Char} (read : (scanWhole text).isSome = true) :
    ∃ digit rest, text = digit :: rest ∧ digit.isDigit = true := by
  cases text with
  | nil => cases read
  | cons digit rest =>
      refine ⟨digit, rest, rfl, ?_⟩
      simp only [scanWhole] at read
      by_cases zero : digit = '0'
      · rw [zero]
        rfl
      · rw [if_neg zero] at read
        split at read
        · assumption
        · cases read

theorem scanUnsigned_digit {negative : Bool} {text after : List Char} {token : Token}
    (read : scanUnsigned negative text = some (token, after)) :
    ∃ digit rest, text = digit :: rest ∧ digit.isDigit = true := by
  apply scanWhole_digit
  unfold scanUnsigned at read
  split at read
  · cases read
  · next whole =>
      rw [whole]
      rfl

def signed (negative : Bool) (digits : List Char) : List Char :=
  if negative then '-' :: digits else digits

theorem tokens_number {negative : Bool} {front rest : List Char} {token : Token}
    (read : scanUnsigned negative front = some (token, [])) (stops : Stops rest) :
    tokens (signed negative front ++ rest) = token :: tokens rest := by
  have number : scanUnsigned negative (front ++ rest) = some (token, rest) := by
    rw [scanUnsigned_append stops, read]
    rfl
  rcases scanUnsigned_digit read with ⟨digit, more, rfl, isDigit⟩
  have facts := digit_facts isDigit
  cases negative with
  | true =>
      apply tokens_scan rfl
      have sign (text : List Char) : scan '-' text =
          (scanWord "Infinity".toList (.float "-inf") text).or (scanUnsigned true text) := rfl
      have noWord : scanWord "Infinity".toList (.float "-inf") (digit :: more ++ rest) =
          none := by
        apply if_neg
        have different := facts.2.2.2.2.2
        simp [List.isPrefixOf, Ne.symm different]
      rw [List.append_eq, sign, noWord, Option.none_or, number]
  | false =>
      apply tokens_scan facts.1
      unfold scan
      rw [facts.2.1, facts.2.2.1]
      dsimp only
      rw [if_neg facts.2.2.2.1, if_neg facts.2.2.2.2.1]
      exact number

omit [Floats] in
theorem toDigits_head {value : Nat} (positive : 0 < value) :
    ∃ digit rest, Nat.toDigits 10 value = digit :: rest ∧ digit ≠ '0' := by
  induction value using Nat.strongRecOn with
  | ind value induction =>
      by_cases small : value < 10
      · refine ⟨value.digitChar, [], Nat.toDigits_of_lt_base small, ?_⟩
        have digits : ∀ digit < 10, 0 < digit → digit.digitChar ≠ '0' := by decide
        exact digits value small positive
      · have front := induction (value / 10) (by omega) (by omega)
        rcases front with ⟨digit, rest, same, notZero⟩
        exact ⟨digit, rest ++ [(value % 10).digitChar],
          by rw [Nat.toDigits_of_base_le (by decide) (by omega), same, List.cons_append], notZero⟩

omit [Floats] in
theorem scanWhole_toDigits (value : Nat) :
    scanWhole (Nat.toDigits 10 value) = some (Nat.toDigits 10 value, []) := by
  have digits : ∀ digit ∈ Nat.toDigits 10 value, digit.isDigit = true :=
    fun _ member => Nat.isDigit_of_mem_toDigits (by decide) (by decide) member
  rcases Nat.eq_zero_or_pos value with rfl | positive
  · rfl
  · rcases toDigits_head positive with ⟨digit, rest, same, notZero⟩
    rw [same] at digits ⊢
    have all : ∀ other ∈ rest, other.isDigit = true :=
      fun other member => digits other (List.mem_cons_of_mem _ member)
    simp only [scanWhole]
    rw [if_neg notZero, if_pos (digits digit List.mem_cons_self),
      List.takeWhile_eq_self_iff.mpr all, List.dropWhile_eq_nil_iff.mpr all]

theorem scanUnsigned_toDigits (negative : Bool) (value : Nat) :
    scanUnsigned negative (Nat.toDigits 10 value) =
      some (.numeral negative (Nat.toDigits 10 value), []) := by
  unfold scanUnsigned
  rw [scanWhole_toDigits]
  rfl

omit [Floats] in
theorem toString_int (value : Int) :
    (toString value).toList = signed (decide (value < 0)) (Nat.toDigits 10 value.natAbs) := by
  cases value with
  | ofNat magnitude =>
      have natural : ¬(Int.ofNat magnitude < 0) := by simp
      rw [decide_eq_false natural]
      exact Nat.toList_repr
  | negSucc magnitude =>
      rw [decide_eq_true (Int.negSucc_lt_zero magnitude)]
      have written : (toString (Int.negSucc magnitude)).toList =
          ("-" ++ (magnitude + 1).repr).toList := rfl
      rw [written, String.toList_append, Nat.toList_repr]
      rfl

theorem tokens_int {rest : List Char} (stops : Stops rest) (value : Int) :
    tokens ((toString value).toList ++ rest) =
      .numeral (decide (value < 0)) (Nat.toDigits 10 value.natAbs) :: tokens rest := by
  rw [toString_int]
  exact tokens_number (scanUnsigned_toDigits _ _) stops

omit [Floats] in
theorem integer_toDigits (value : Int) :
    integer (decide (value < 0)) (Nat.toDigits 10 value.natAbs) = value := by
  unfold integer
  rw [Nat.ofDigitChars_ten_toDigits]
  dsimp only
  split
  · next negative =>
      have below := of_decide_eq_true negative
      omega
  · next natural =>
      have above : ¬value < 0 := fun below => natural (decide_eq_true below)
      omega

/-! ## Values -/

/-- The texts that floats print as. -/
inductive Printed : String → Prop where
  | nan : Printed "nan"
  | infinity : Printed "inf"
  | negativeInfinity : Printed "-inf"
  | number {negative : Bool} {front : List Char} {printed : String}
      (read : scanUnsigned negative front = some (.literal (.float printed), []))
      (whole : printed.toList = signed negative front) : Printed printed

theorem tokens_float {printed : String} (float : Printed printed) {rest : List Char}
    (stops : Stops rest) :
    tokens (floatText printed ++ rest) = .literal (.float printed) :: tokens rest := by
  cases float with
  | nan => exact tokens_word rfl rfl rfl rest
  | infinity => exact tokens_word rfl rfl rfl rest
  | negativeInfinity =>
      apply tokens_scan rfl
      have sign (text : List Char) : scan '-' text =
          (scanWord "Infinity".toList (.float "-inf") text).or (scanUnsigned true text) := rfl
      have word (text : List Char) :
          scanWord "Infinity".toList (.float "-inf") ("Infinity".toList ++ text) =
            some (.literal (.float "-inf"), text) := by
        rw [scanWord, if_pos (by simp), List.drop_left]
      have found := (sign _).trans (congrArg (Option.or · _) (word rest))
      exact found
  | number read whole =>
      rename_i negative front
      rcases scanUnsigned_digit read with ⟨digit, more, rfl, isDigit⟩
      have noWord {word : String} {first : Char} {letters : List Char}
          (spelled : word.toList = first :: letters)
          (letter : first.isDigit = false ∧ first ≠ '-') : printed ≠ word := by
        rintro rfl
        rw [spelled] at whole
        cases negative with
        | true => exact letter.2 (List.cons.inj whole).1
        | false =>
            rw [← (List.cons.inj whole).1, letter.1] at isDigit
            cases isDigit
      have notNegative : printed ≠ "-inf" := by
        rintro rfl
        cases negative with
        | true =>
            rw [← (List.cons.inj (List.cons.inj whole).2).1] at isDigit
            cases isDigit
        | false =>
            rw [← (List.cons.inj whole).1] at isDigit
            cases isDigit
      have text : floatText printed = signed negative (digit :: more) := by
        rw [floatText, if_neg (noWord rfl (by decide)),
          if_neg (noWord rfl (by decide)), if_neg notNegative, whole]
      rw [text]
      exact tokens_number read stops

/-- Values as Python holds them: the keys of an object are distinct, and a float is kept as
it prints. -/
inductive Held : Json → Prop where
  | null : Held .null
  | bool (value : Bool) : Held (.bool value)
  | int (value : Int) : Held (.int value)
  | float {printed : String} (float : Printed printed) : Held (.float printed)
  | string (value : String) : Held (.string value)
  | array {values : List Json} (items : ∀ value ∈ values, Held value) : Held (.array values)
  | object {members : List (String × Json)} (distinct : (members.map Prod.fst).Nodup)
      (values : ∀ member ∈ members, Held member.2) : Held (.object members)

end Tokens

/-! ## Runs -/

section Runs

variable {limits : Limits} {stack : List Container} {state next : State} {token : Token}

theorem depth_settle (value : Json) (stack : List Container) :
    (settle value stack).depth = stack.length := by
  rcases stack with _ | ⟨_ | _, _⟩ <;> rfl

theorem run_step (stepped : step state token = some next)
    (allowed : excess limits token next = none) (later : List Token) :
    run limits state (token :: later) = run limits next later := by
  rw [run, List.foldlM_cons, checkedStep, stepped]
  dsimp only
  rw [allowed]
  rfl

theorem run_excess {kind : Excess} (stepped : step state token = some next)
    (beyond : excess limits token next = some kind) (later : List Token) :
    run limits state (token :: later) = .error (.excess kind) := by
  rw [run, List.foldlM_cons, checkedStep, stepped]
  dsimp only
  rw [beyond]
  rfl

/-- Tokens other than numerals count for the containers that are open. -/
def Token.isNumeral : Token → Bool
  | numeral .. => true
  | _ => false

theorem excess_none (plain : token.isNumeral = false)
    (within : next.depth ≤ limits.nesting) : excess limits token next = none := by
  cases token with
  | numeral => cases plain
  | _ => exact if_neg (by omega)

theorem excess_nesting (plain : token.isNumeral = false)
    (beyond : limits.nesting < next.depth) : excess limits token next = some .nesting := by
  cases token with
  | numeral => cases plain
  | _ => exact if_pos beyond

/-- A value may start, to take its place in the given containers. -/
def Starts (state : State) (stack : List Container) : Prop :=
  ∀ token, token ≠ .closeArray → step state token = begin stack token

theorem starts_value (stack : List Container) : Starts (.value stack) stack := by
  intro token _
  rfl

theorem starts_firstItem (stack : List Container) :
    Starts (.firstItem stack) (.array [] :: stack) := by
  intro token open_
  cases token with
  | closeArray => exact absurd rfl open_
  | _ => rfl

theorem run_settled {value : Json} (starts : Starts state stack)
    (first : begin stack token = some (settle value stack)) (opens : token ≠ .closeArray)
    (plain : token.isNumeral = false) (within : stack.length ≤ limits.nesting)
    (later : List Token) :
    run limits state (token :: later) = run limits (settle value stack) later :=
  run_step ((starts token opens).trans first)
    (excess_none plain ((depth_settle value stack).trans_le within)) later

variable [Floats]

theorem run_mark {first : Char} (next : State) (solid : isBlank first = false)
    (mark : punctuation first = some token) (plain : token.isNumeral = false)
    (stepped : step state token = some next) (within : next.depth ≤ limits.nesting)
    (rest : List Char) :
    run limits state (tokens (first :: rest)) = run limits next (tokens rest) := by
  rw [tokens_punctuation solid mark, run_step stepped (excess_none plain within)]

/-- What the reader makes of the text of a value, in place and in front of what follows. -/
def ReadsAs (limits : Limits) (value : Json) : Prop :=
  ∀ (state : State) (stack : List Container), Starts state stack →
    stack.length ≤ limits.nesting → ∀ rest, Ends rest →
      run limits state (tokens (text value ++ rest)) =
        match firstExcess limits stack.length value with
        | some kind => .error (.excess kind)
        | none => run limits (settle value stack) (tokens rest)

/-- The same, where another value is read. -/
def ReadsTo (limits : Limits) (value result : Json) : Prop :=
  ∀ (state : State) (stack : List Container), Starts state stack →
    stack.length ≤ limits.nesting → ∀ rest, Ends rest →
      run limits state (tokens (text value ++ rest)) =
        match firstExcess limits stack.length value with
        | some kind => .error (.excess kind)
        | none => run limits (settle result stack) (tokens rest)

omit [Floats] in
theorem ends_moreItems (values : List Json) (rest : List Char) :
    Ends (moreItems values ++ rest) := by
  cases values with
  | nil => exact ends_cons (.inr (.inl rfl)) _
  | cons other values => exact ends_cons (.inl rfl) _

omit [Floats] in
theorem ends_moreMembers (members : List (String × Json)) (rest : List Char) :
    Ends (moreMembers members ++ rest) := by
  cases members with
  | nil => exact ends_cons (.inr (.inr rfl)) _
  | cons other members => exact ends_cons (.inl rfl) _

theorem run_moreItems {values : List Json} (items : ∀ value ∈ values, ReadsAs limits value)
    (within : stack.length + 1 ≤ limits.nesting) (before : List Json) (rest : List Char) :
    run limits (.nextItem before stack) (tokens (moreItems values ++ rest)) =
      match itemsExcess limits (stack.length + 1) values with
      | some kind => .error (.excess kind)
      | none => run limits (settle (.array (before ++ values)) stack) (tokens rest) := by
  induction values generalizing before with
  | nil =>
      rw [moreItems, List.singleton_append, List.append_nil, itemsExcess]
      exact run_mark _ rfl rfl rfl rfl ((depth_settle _ stack).trans_le (by omega)) _
  | cons value values induction =>
      rw [moreItems, List.append_assoc, List.cons_append,
        run_mark (.value (.array before :: stack)) rfl rfl rfl rfl within,
        items value List.mem_cons_self _ _ (starts_value (.array before :: stack)) within _
          (ends_moreItems values rest), itemsExcess]
      have depth : (Container.array before :: stack).length = stack.length + 1 := rfl
      rw [depth]
      cases firstExcess limits (stack.length + 1) value with
      | some kind => rfl
      | none =>
          have rest := induction (fun other member => items other (List.mem_cons_of_mem _ member))
            (before ++ [value])
          rw [List.append_assoc] at rest
          exact rest

theorem run_member {key : String} {value result : Json} (reads : ReadsTo limits value result)
    (within : stack.length + 1 ≤ limits.nesting) (before : Dict String Json)
    (asksKey : step state (.text key) = some (.colon before key stack))
    {rest : List Char} (ends : Ends rest) :
    run limits state (tokens (quoted key ++ ':' :: text value ++ rest)) =
      match firstExcess limits (stack.length + 1) value with
      | some kind => .error (.excess kind)
      | none => run limits (.nextMember (before.set key result) stack) (tokens rest) := by
  rw [List.append_assoc, tokens_quoted, List.cons_append,
    run_step asksKey (excess_none rfl within),
    run_mark (.value (.object before key :: stack)) rfl rfl rfl rfl within,
    reads _ _ (starts_value (.object before key :: stack)) within _ ends]
  rfl

theorem run_moreMembers {members : List (String × Json)} {read : Json → Json}
    (values : ∀ member ∈ members, ReadsTo limits member.2 (read member.2))
    (within : stack.length + 1 ≤ limits.nesting) (before : Dict String Json)
    (rest : List Char) :
    run limits (.nextMember before stack) (tokens (moreMembers members ++ rest)) =
      match membersExcess limits (stack.length + 1) members with
      | some kind => .error (.excess kind)
      | none =>
          run limits
            (settle (.object (members.foldl
              (fun held member => held.set member.1 (read member.2)) before).entries) stack)
            (tokens rest) := by
  induction members generalizing before with
  | nil =>
      rw [moreMembers, List.singleton_append, membersExcess]
      exact run_mark _ rfl rfl rfl rfl ((depth_settle _ stack).trans_le (by omega)) _
  | cons member members induction =>
      rcases member with ⟨key, value⟩
      have whole : moreMembers ((key, value) :: members) ++ rest =
          ',' :: (quoted key ++ ':' :: text value ++ (moreMembers members ++ rest)) := by
        simp [moreMembers]
      rw [whole, run_mark (.key before stack) rfl rfl rfl rfl within,
        run_member (values _ List.mem_cons_self) within before rfl (ends_moreMembers members rest),
        membersExcess]
      cases firstExcess limits (stack.length + 1) value with
      | some kind => rfl
      | none =>
          exact induction (fun other member => values other (List.mem_cons_of_mem _ member)) _

theorem readsAs_literal {value : Json} (noExcess : ∀ depth, firstExcess limits depth value = none)
    (lexed : ∀ rest, Ends rest → tokens (text value ++ rest) = .literal value :: tokens rest) :
    ReadsAs limits value := by
  intro state stack starts within rest ends
  have opens : Token.literal value ≠ .closeArray := nofun
  rw [lexed rest ends, noExcess]
  exact run_settled starts rfl opens rfl within _

theorem readsAs_int (value : Int) : ReadsAs limits (.int value) := by
  intro state stack starts within rest ends
  have opens : Token.numeral (decide (value < 0)) (Nat.toDigits 10 value.natAbs) ≠
      .closeArray := nofun
  have settled : step state
      (.numeral (decide (value < 0)) (Nat.toDigits 10 value.natAbs)) =
        some (settle (.int value) stack) := by
    rw [starts _ opens, begin, integer_toDigits]
  have length : (toString value.natAbs).length = (Nat.toDigits 10 value.natAbs).length :=
    congrArg List.length Nat.toList_repr
  rw [text, tokens_int ends.stops, firstExcess, length]
  by_cases long : limits.tooLong (Nat.toDigits 10 value.natAbs).length = true
  · rw [if_pos long]
    exact run_excess settled (if_pos long) _
  · rw [if_neg long]
    exact run_step settled (if_neg long) _

theorem run_open {first : Char} (next : State) (solid : isBlank first = false)
    (mark : punctuation first = some token) (plain : token.isNumeral = false)
    (stepped : step state token = some next) (depth : next.depth = stack.length + 1)
    (rest : List Char) :
    run limits state (tokens (first :: rest)) =
      if limits.nesting < stack.length + 1 then .error (.excess .nesting)
      else run limits next (tokens rest) := by
  rw [tokens_punctuation solid mark]
  split
  · next beyond => exact run_excess stepped (excess_nesting plain (depth ▸ beyond)) _
  · next within => exact run_step stepped (excess_none plain (by omega)) _

theorem readsAs_array {values : List Json} (items : ∀ value ∈ values, ReadsAs limits value) :
    ReadsAs limits (.array values) := by
  intro state stack starts within rest ends
  have opened := starts .openArray nofun
  rw [firstExcess]
  cases values with
  | nil =>
      rw [text, List.cons_append, run_open (.firstItem stack) rfl rfl rfl opened rfl]
      split
      · rfl
      · next deep =>
          exact run_mark _ rfl rfl rfl rfl ((depth_settle _ stack).trans_le within) _
  | cons value values =>
      have whole : text (.array (value :: values)) ++ rest =
          '[' :: (text value ++ (moreItems values ++ rest)) := by
        simp [text]
      rw [whole, run_open (.firstItem stack) rfl rfl rfl opened rfl]
      split
      · rfl
      · next deep =>
          have inside : (Container.array [] :: stack).length ≤ limits.nesting := by
            simp only [List.length_cons]
            omega
          rw [items value List.mem_cons_self _ _ (starts_firstItem stack) inside _
            (ends_moreItems values rest), itemsExcess]
          have depth : (Container.array [] :: stack).length = stack.length + 1 := rfl
          rw [depth]
          cases firstExcess limits (stack.length + 1) value with
          | some kind => rfl
          | none =>
              exact run_moreItems
                (fun other member => items other (List.mem_cons_of_mem _ member)) inside [value] _

theorem readsTo_object {members : List (String × Json)} {read : Json → Json}
    (values : ∀ member ∈ members, ReadsTo limits member.2 (read member.2)) :
    ReadsTo limits (.object members) (.object (members.foldl
      (fun (held : Dict String Json) member => held.set member.1 (read member.2))
      .empty).entries) := by
  intro state stack starts within rest ends
  have opened := starts .openObject nofun
  rw [firstExcess]
  cases members with
  | nil =>
      rw [text, List.cons_append, run_open (.firstKey stack) rfl rfl rfl opened rfl]
      split
      · rfl
      · next deep =>
          exact run_mark _ rfl rfl rfl rfl ((depth_settle _ stack).trans_le within) _
  | cons member members =>
      rcases member with ⟨key, value⟩
      have whole : text (.object ((key, value) :: members)) ++ rest =
          '\x7b' :: (quoted key ++ ':' :: text value ++ (moreMembers members ++ rest)) := by
        simp [text]
      rw [whole, run_open (.firstKey stack) rfl rfl rfl opened rfl]
      split
      · rfl
      · next deep =>
          have inside : stack.length + 1 ≤ limits.nesting := by omega
          rw [run_member (values _ List.mem_cons_self) inside .empty rfl
            (ends_moreMembers members rest), membersExcess]
          cases firstExcess limits (stack.length + 1) value with
          | some kind => rfl
          | none =>
              exact run_moreMembers
                (fun other member => values other (List.mem_cons_of_mem _ member)) inside
                (Dict.empty.set key (read value)) rest

theorem readsAs_object {members : List (String × Json)}
    (distinct : (members.map Prod.fst).Nodup)
    (values : ∀ member ∈ members, ReadsAs limits member.2) :
    ReadsAs limits (.object members) := by
  have reads := @readsTo_object _ _ members id values
  have all : (members.foldl (fun (held : Dict String Json) member =>
      held.set member.1 (id member.2)) .empty).entries = members :=
    congrArg Dict.entries (Dict.ofList_entries ⟨members, distinct⟩)
  rwa [all] at reads

theorem readsAs_of_held {value : Json} (held : Held value) : ReadsAs limits value := by
  induction held with
  | null =>
      apply readsAs_literal (fun _ => rfl)
      intro rest _
      exact tokens_word rfl rfl rfl rest
  | bool value =>
      apply readsAs_literal (fun _ => rfl)
      intro rest _
      cases value <;> exact tokens_word rfl rfl rfl rest
  | int value => exact readsAs_int value
  | float float =>
      apply readsAs_literal (fun _ => rfl)
      intro rest ends
      exact tokens_float float ends.stops
  | string value =>
      intro state stack starts within rest _
      have opens : Token.text value ≠ .closeArray := nofun
      rw [text, tokens_quoted]
      exact run_settled starts rfl opens rfl within _
  | array items induction => exact readsAs_array induction
  | object distinct values induction => exact readsAs_object distinct induction

theorem loads_text_to {value result : Json} (reads : ReadsTo limits value result) :
    loads limits (text value) =
      match firstExcess limits 0 value with
      | some kind => .error (.excess kind)
      | none => .ok result := by
  have read := reads _ [] (starts_value []) (Nat.zero_le _) [] ends_nil
  rw [List.append_nil, tokens_nil] at read
  rw [loads, read]
  cases firstExcess limits ([] : List Container).length value with
  | some kind => rfl
  | none => rfl

theorem loads_text {value : Json} (held : Held value) :
    loads limits (text value) =
      match firstExcess limits 0 value with
      | some kind => .error (.excess kind)
      | none => .ok value :=
  loads_text_to (readsAs_of_held held)

/-! ## Limits -/

/-- Some beginning of the text is well formed up to a token that exceeds the limits. -/
def Overruns (limits : Limits) (text : List Char) : Prop :=
  ∃ seen token later before after, tokens text = seen ++ token :: later ∧
    seen.foldlM step (.value []) = some before ∧ step before token = some after ∧
    (excess limits token after).isSome = true

omit [Floats] in
theorem run_excess_iff (state : State) (tokens : List Token) :
    (∃ kind, run limits state tokens = .error (.excess kind)) ↔
      ∃ seen token later before after, tokens = seen ++ token :: later ∧
        seen.foldlM step state = some before ∧ step before token = some after ∧
        (excess limits token after).isSome = true := by
  induction tokens generalizing state with
  | nil =>
      constructor
      · intro ⟨kind, ran⟩
        cases ran
      · intro ⟨seen, token, later, before, after, split, _⟩
        simp at split
  | cons first more induction =>
      cases stepped : step state first with
      | none =>
          constructor
          · intro ⟨kind, ran⟩
            rw [run, List.foldlM_cons, checkedStep, stepped] at ran
            cases ran
          · intro ⟨seen, token, later, before, after, split, ran, last, _⟩
            cases seen with
            | nil =>
                cases split
                cases ran
                rw [stepped] at last
                cases last
            | cons other seen =>
                cases split
                rw [List.foldlM_cons, stepped] at ran
                cases ran
      | some next =>
          cases beyond : excess limits first next with
          | some kind =>
              constructor
              · intro _
                exact ⟨[], first, more, state, next, rfl, rfl, stepped, by rw [beyond]; rfl⟩
              · intro _
                exact ⟨kind, run_excess stepped beyond more⟩
          | none =>
              rw [run_step stepped beyond, induction next]
              constructor
              · intro ⟨seen, token, later, before, after, split, ran, last, exceeds⟩
                refine ⟨first :: seen, token, later, before, after, congrArg (first :: ·) split,
                  ?_, last, exceeds⟩
                rw [List.foldlM_cons, stepped]
                exact ran
              · intro ⟨seen, token, later, before, after, split, ran, last, exceeds⟩
                cases seen with
                | nil =>
                    cases split
                    cases ran
                    rw [stepped] at last
                    cases last
                    rw [beyond] at exceeds
                    cases exceeds
                | cons other seen =>
                    cases split
                    rw [List.foldlM_cons, stepped] at ran
                    exact ⟨seen, token, later, before, after, rfl, ran, last, exceeds⟩

theorem loads_excess_iff (text : List Char) :
    (∃ kind, loads limits text = .error (.excess kind)) ↔ Overruns limits text := by
  unfold Overruns
  rw [← run_excess_iff]
  unfold loads
  cases run limits (.value []) (tokens text) with
  | error failure =>
      cases failure with
      | malformed => exact ⟨nofun, nofun⟩
      | excess kind => exact ⟨fun _ => ⟨kind, rfl⟩, fun _ => ⟨kind, rfl⟩⟩
  | ok state => cases state <;> exact ⟨nofun, nofun⟩

end Runs

end Agtp.JsonText
