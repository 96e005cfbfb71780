import Agtp.Foundation.Dict
import Agtp.Foundation.Floats
import Agtp.Foundation.PercentEncoding

/-! # JSON texts

`json.dumps` with compact separators, and `json.loads`. The reader is a machine over the
tokens of a text. The interpreter limits the digits of an integer and the nesting of
containers; both functions raise an exception of their own beyond these limits. -/

namespace Agtp.JsonText

/-- What the interpreter allows. No bound on digits is written as zero. -/
structure Limits where
  digits : Nat
  nesting : Nat

/-- The `ValueError` of an integer with too many digits, or a `RecursionError`. -/
inductive Excess where
  | digits
  | nesting
deriving DecidableEq

/-- Why a text is not read. A malformed one raises a `JSONDecodeError`. -/
inductive Failure where
  | malformed
  | excess (kind : Excess)
deriving DecidableEq

/-! ## Tokens -/

inductive Token where
  | openArray
  | closeArray
  | openObject
  | closeObject
  | comma
  | colon
  | text (value : String)
  | numeral (negative : Bool) (digits : List Char)
  | literal (value : Json)
  | malformed

/-- The characters between tokens. -/
def isBlank (character : Char) : Bool :=
  character = ' ' || character = '\t' || character = '\n' || character = '\r'

/-! ### Texts -/

def hex4 : List Char → Option (Nat × List Char)
  | first :: second :: third :: fourth :: rest =>
      match PercentEncoding.hexValue first, PercentEncoding.hexValue second,
        PercentEncoding.hexValue third, PercentEncoding.hexValue fourth with
      | some a, some b, some c, some d => some (4096 * a + 256 * b + 16 * c + d, rest)
      | _, _, _, _ => none
  | _ => none

def isHighSurrogate (code : Nat) : Bool := 0xD800 ≤ code && code < 0xDC00

def isLowSurrogate (code : Nat) : Bool := 0xDC00 ≤ code && code < 0xE000

/-- The character with a code. A lone surrogate stands as the replacement character. -/
def characterOf (code : Nat) : Char :=
  if isHighSurrogate code || isLowSurrogate code then '\uFFFD' else Char.ofNat code

/-- The low half of a surrogate pair, where one follows. -/
def lowSurrogate : List Char → Option (Nat × List Char)
  | '\\' :: 'u' :: rest =>
      (hex4 rest).filter fun low => isLowSurrogate low.1
  | _ => none

def scanCode (rest : List Char) : Option (Char × List Char) :=
  match hex4 rest with
  | none => none
  | some (code, after) =>
      if isHighSurrogate code then
        match lowSurrogate after with
        | some (low, last) =>
            some (Char.ofNat (0x10000 + 1024 * (code - 0xD800) + (low - 0xDC00)), last)
        | none => some (characterOf code, after)
      else some (characterOf code, after)

/-- The characters that a letter behind a backslash stands for. -/
def escaped (mark : Char) : Option Char :=
  if mark = '"' ∨ mark = '\\' ∨ mark = '/' then some mark
  else if mark = 'b' then some '\x08'
  else if mark = 'f' then some '\x0c'
  else if mark = 'n' then some '\n'
  else if mark = 'r' then some '\r'
  else if mark = 't' then some '\t'
  else none

/-- One character of a text, which may be escaped. -/
def scanCharacter (character : Char) (rest : List Char) : Option (Char × List Char) :=
  if character = '\\' then
    match rest with
    | [] => none
    | mark :: rest =>
        if mark = 'u' then scanCode rest else (escaped mark).map fun held => (held, rest)
  else if character.toNat < 32 then none
  else some (character, rest)

theorem hex4_shorter {text rest : List Char} {code : Nat}
    (read : hex4 text = some (code, rest)) : rest.length < text.length := by
  unfold hex4 at read
  split at read
  · split at read
    · cases read
      simp only [List.length_cons]
      omega
    · cases read
  · cases read

theorem scanCode_shorter {text rest : List Char} {character : Char}
    (read : scanCode text = some (character, rest)) : rest.length < text.length := by
  unfold scanCode at read
  split at read
  · cases read
  · next first =>
      have shorter := hex4_shorter first
      split at read
      · split at read
        · next low last second =>
            have same : last = rest := congrArg Prod.snd (Option.some.inj read)
            subst same
            unfold lowSurrogate at second
            split at second
            · have later := hex4_shorter (Option.filter_eq_some_iff.mp second).1
              simp only [List.length_cons] at shorter
              omega
            · cases second
        · cases read
          exact shorter
      · cases read
        exact shorter

theorem scanCharacter_shorter {character read : Char} {text rest : List Char}
    (scanned : scanCharacter character text = some (read, rest)) :
    rest.length ≤ text.length := by
  unfold scanCharacter at scanned
  split at scanned
  · split at scanned
    · cases scanned
    · split at scanned
      · have shorter := scanCode_shorter scanned
        simp only [List.length_cons]
        omega
      · rcases Option.map_eq_some_iff.mp scanned with ⟨held, _, same⟩
        cases same
        simp
  · split at scanned
    · cases scanned
    · cases scanned
      exact le_rfl

/-- `scanstring`: what a text holds, and what follows its closing quote. -/
def scanString (text : List Char) : Option (List Char × List Char) :=
  match text with
  | [] => none
  | character :: rest =>
      if character = '"' then some ([], rest)
      else
        match _scanned : scanCharacter character rest with
        | none => none
        | some (read, after) =>
            (scanString after).map fun more => (read :: more.1, more.2)
termination_by text.length
decreasing_by
  have shorter := scanCharacter_shorter _scanned
  simp only [List.length_cons]
  omega

/-! ### Numbers -/

/-- A fraction, with its point; empty where there is none. -/
def scanFraction (text : List Char) : List Char × List Char :=
  match text with
  | '.' :: rest =>
      if rest.takeWhile Char.isDigit = [] then ([], text)
      else ('.' :: rest.takeWhile Char.isDigit, rest.dropWhile Char.isDigit)
  | _ => ([], text)

/-- A sign, where there is one. -/
def scanSign (text : List Char) : List Char × List Char :=
  match text with
  | character :: rest =>
      if character = '+' ∨ character = '-' then ([character], rest) else ([], text)
  | [] => ([], [])

def scanExponent (text : List Char) : List Char × List Char :=
  match text with
  | [] => ([], [])
  | mark :: rest =>
      let sign := scanSign rest
      if (mark = 'e' ∨ mark = 'E') ∧ sign.2.takeWhile Char.isDigit ≠ [] then
        (mark :: sign.1 ++ sign.2.takeWhile Char.isDigit, sign.2.dropWhile Char.isDigit)
      else ([], text)

/-- The digits before the point: a zero, or digits that do not start with one. -/
def scanWhole (text : List Char) : Option (List Char × List Char) :=
  match text with
  | [] => none
  | digit :: rest =>
      if digit = '0' then some (['0'], rest)
      else if digit.isDigit then
        some (digit :: rest.takeWhile Char.isDigit, rest.dropWhile Char.isDigit)
      else none

section Numbers

variable [Floats]

def floatOf (text : List Char) : Json :=
  .float ((Floats.ofText (String.ofList text)).getD (String.ofList text))

def scanUnsigned (negative : Bool) (text : List Char) : Option (Token × List Char) :=
  match scanWhole text with
  | none => none
  | some (digits, rest) =>
      let fraction := scanFraction rest
      let exponent := scanExponent fraction.2
      if fraction.1 = [] ∧ exponent.1 = [] then some (.numeral negative digits, rest)
      else
        let sign := if negative then ['-'] else []
        some (.literal (floatOf (sign ++ digits ++ fraction.1 ++ exponent.1)), exponent.2)

/-- The rest of a word, or of the text where it is not the word. -/
def scanWord (word : List Char) (value : Json) (text : List Char) :
    Option (Token × List Char) :=
  if word.isPrefixOf text then some (.literal value, text.drop word.length) else none

/-- The tokens of one character. -/
def punctuation (character : Char) : Option Token :=
  if character = '[' then some .openArray
  else if character = ']' then some .closeArray
  else if character = '\x7b' then some .openObject
  else if character = '\x7d' then some .closeObject
  else if character = ',' then some .comma
  else if character = ':' then some .colon
  else none

/-- The words, by their first letters. -/
def wordAt (first : Char) : Option (List Char × Json) :=
  if first = 'n' then some ("ull".toList, .null)
  else if first = 't' then some ("rue".toList, .bool true)
  else if first = 'f' then some ("alse".toList, .bool false)
  else if first = 'N' then some ("aN".toList, .float "nan")
  else if first = 'I' then some ("nfinity".toList, .float "inf")
  else none

/-- The token that starts with a character. -/
def scan (first : Char) (rest : List Char) : Option (Token × List Char) :=
  match punctuation first, wordAt first with
  | some token, _ => some (token, rest)
  | none, some (word, value) => scanWord word value rest
  | none, none =>
      if first = '"' then
        (scanString rest).map fun read => (.text (String.ofList read.1), read.2)
      else if first = '-' then
        (scanWord "Infinity".toList (.float "-inf") rest).or (scanUnsigned true rest)
      else scanUnsigned false (first :: rest)

omit [Floats] in
theorem dropWhile_length_le (text : List Char) :
    (text.dropWhile Char.isDigit).length ≤ text.length :=
  (List.dropWhile_suffix _).length_le

omit [Floats] in
theorem scanFraction_length (text : List Char) : (scanFraction text).2.length ≤ text.length := by
  unfold scanFraction
  split
  · split
    · exact le_rfl
    · next rest _ =>
        have shorter := dropWhile_length_le rest
        simp only [List.length_cons]
        omega
  · exact le_rfl

omit [Floats] in
theorem scanSign_length (text : List Char) : (scanSign text).2.length ≤ text.length := by
  unfold scanSign
  split
  · split
    · simp
    · exact le_rfl
  · exact le_rfl

omit [Floats] in
theorem scanExponent_length (text : List Char) : (scanExponent text).2.length ≤ text.length := by
  unfold scanExponent
  split
  · exact le_rfl
  · next rest =>
      dsimp only
      split
      · have shorter := dropWhile_length_le (scanSign rest).2
        have sign := scanSign_length rest
        simp only [List.length_cons]
        omega
      · exact le_rfl

omit [Floats] in
theorem scanWhole_shorter {text digits rest : List Char}
    (read : scanWhole text = some (digits, rest)) : rest.length < text.length := by
  unfold scanWhole at read
  split at read
  · cases read
  · next digit tail =>
      have shorter := dropWhile_length_le tail
      split at read
      · cases read
        simp
      · split at read
        · cases read
          simp only [List.length_cons]
          omega
        · cases read

theorem scanUnsigned_shorter {negative : Bool} {text rest : List Char} {token : Token}
    (read : scanUnsigned negative text = some (token, rest)) : rest.length < text.length := by
  unfold scanUnsigned at read
  split at read
  · cases read
  · next digits after whole =>
      have shorter := scanWhole_shorter whole
      have fraction := scanFraction_length after
      have exponent := scanExponent_length (scanFraction after).2
      dsimp only at read
      split at read
      · cases read
        exact shorter
      · cases read
        omega

omit [Floats] in
theorem scanWord_shorter {word text rest : List Char} {value : Json} {token : Token}
    (read : scanWord word value text = some (token, rest)) : rest.length ≤ text.length := by
  unfold scanWord at read
  split at read
  · cases read
    simp
  · cases read

omit [Floats] in
theorem scanString_shorter {text held rest : List Char}
    (read : scanString text = some (held, rest)) : rest.length < text.length := by
  induction text using scanString.induct generalizing held rest with
  | case1 => simp [scanString] at read
  | case2 tail =>
      rw [scanString, if_pos rfl] at read
      cases read
      simp
  | case3 character tail other refused =>
      unfold scanString at read
      rw [if_neg other] at read
      split at read
      · cases read
      · next found =>
          rw [refused] at found
          cases found
  | case4 character tail other first after scanned induction =>
      unfold scanString at read
      rw [if_neg other] at read
      split at read
      · cases read
      · next found =>
          rw [scanned] at found
          cases found
          rcases Option.map_eq_some_iff.mp read with ⟨⟨more, last⟩, later, same⟩
          cases same
          have shorter := scanCharacter_shorter scanned
          have rest := induction later
          simp only [List.length_cons]
          omega

theorem scan_shorter {first : Char} {text rest : List Char} {token : Token}
    (read : scan first text = some (token, rest)) : rest.length ≤ text.length := by
  unfold scan at read
  split at read
  · cases read
    exact le_rfl
  · exact scanWord_shorter read
  · split at read
    · rcases Option.map_eq_some_iff.mp read with ⟨⟨held, last⟩, found, same⟩
      cases same
      exact (scanString_shorter found).le
    · split at read
      · rcases Option.or_eq_some_iff.mp read with word | ⟨_, number⟩
        · exact scanWord_shorter word
        · exact (scanUnsigned_shorter number).le
      · have shorter := scanUnsigned_shorter read
        simp only [List.length_cons] at shorter
        omega

/-- The tokens of a text. Where none can be read, the last one is malformed. -/
def tokens (text : List Char) : List Token :=
  match text with
  | [] => []
  | first :: rest =>
      if isBlank first then tokens rest
      else
        match _scanned : scan first rest with
        | none => [.malformed]
        | some (token, after) => token :: tokens after
termination_by text.length
decreasing_by
  · simp
  · have shorter := scan_shorter _scanned
    simp only [List.length_cons]
    omega

end Numbers

/-! ## The reader -/

/-- A container that is open while one of its values is read. -/
inductive Container where
  | array (items : List Json)
  | object (members : Dict String Json) (key : String)

/-- What may come next, with the containers around it. -/
inductive State where
  | value (stack : List Container)
  | firstItem (stack : List Container)
  | nextItem (items : List Json) (stack : List Container)
  | firstKey (stack : List Container)
  | key (members : Dict String Json) (stack : List Container)
  | colon (members : Dict String Json) (key : String) (stack : List Container)
  | nextMember (members : Dict String Json) (stack : List Container)
  | done (value : Json)

/-- How many containers are open. -/
def State.depth : State → Nat
  | value stack => stack.length
  | firstItem stack | nextItem _ stack | firstKey stack | key _ stack | colon _ _ stack
  | nextMember _ stack => stack.length + 1
  | done _ => 0

/-- A value takes its place in the innermost container. -/
def settle (value : Json) : List Container → State
  | [] => .done value
  | .array items :: stack => .nextItem (items ++ [value]) stack
  | .object members key :: stack => .nextMember (members.set key value) stack

def integer (negative : Bool) (digits : List Char) : Int :=
  let magnitude : Int := Nat.ofDigitChars 10 digits 0
  if negative then -magnitude else magnitude

/-- The first token of a value. -/
def begin (stack : List Container) : Token → Option State
  | .literal value => some (settle value stack)
  | .numeral negative digits => some (settle (.int (integer negative digits)) stack)
  | .text value => some (settle (.string value) stack)
  | .openArray => some (.firstItem stack)
  | .openObject => some (.firstKey stack)
  | _ => none

/-- A token in its place; `none` is a malformed text. -/
def step : State → Token → Option State
  | .value stack, token => begin stack token
  | .firstItem stack, .closeArray => some (settle (.array []) stack)
  | .firstItem stack, token => begin (.array [] :: stack) token
  | .nextItem items stack, .comma => some (.value (.array items :: stack))
  | .nextItem items stack, .closeArray => some (settle (.array items) stack)
  | .firstKey stack, .closeObject => some (settle (.object []) stack)
  | .firstKey stack, .text key => some (.colon .empty key stack)
  | .key members stack, .text key => some (.colon members key stack)
  | .colon members key stack, .colon => some (.value (.object members key :: stack))
  | .nextMember members stack, .comma => some (.key members stack)
  | .nextMember members stack, .closeObject => some (settle (.object members.entries) stack)
  | _, _ => none

def Limits.tooLong (limits : Limits) (digits : Nat) : Bool :=
  limits.digits ≠ 0 && limits.digits < digits

/-- What a token exceeds in the state that it leads to. -/
def excess (limits : Limits) (token : Token) (state : State) : Option Excess :=
  match token with
  | .numeral _ digits => if limits.tooLong digits.length then some .digits else none
  | _ => if limits.nesting < state.depth then some .nesting else none

def checkedStep (limits : Limits) (state : State) (token : Token) : Except Failure State :=
  match step state token with
  | none => .error .malformed
  | some next =>
      match excess limits token next with
      | some kind => .error (.excess kind)
      | none => .ok next

def run (limits : Limits) (state : State) (tokens : List Token) : Except Failure State :=
  tokens.foldlM (checkedStep limits) state

def loads [Floats] (limits : Limits) (text : List Char) : Except Failure Json :=
  match run limits (.value []) (tokens text) with
  | .ok (.done value) => .ok value
  | .ok _ => .error .malformed
  | .error failure => .error failure

/-! ## The writer -/

def hexText (code : Nat) : List Char :=
  [(code / 4096).digitChar, (code / 256 % 16).digitChar, (code / 16 % 16).digitChar,
    (code % 16).digitChar]

def escapeCode (code : Nat) : List Char := '\\' :: 'u' :: hexText code

/-- A character of a text. What is not printable ASCII is escaped. -/
def escape (character : Char) : List Char :=
  let code := character.toNat
  if character = '"' then ['\\', '"']
  else if character = '\\' then ['\\', '\\']
  else if character = '\x08' then ['\\', 'b']
  else if character = '\x0c' then ['\\', 'f']
  else if character = '\n' then ['\\', 'n']
  else if character = '\r' then ['\\', 'r']
  else if character = '\t' then ['\\', 't']
  else if 32 ≤ code ∧ code < 127 then [character]
  else if code < 0x10000 then escapeCode code
  else
    escapeCode (0xD800 + (code - 0x10000) / 1024) ++
      escapeCode (0xDC00 + (code - 0x10000) % 1024)

def quoted (value : String) : List Char :=
  '"' :: value.toList.flatMap escape ++ ['"']

def floatText (printed : String) : List Char :=
  if printed = "nan" then "NaN".toList
  else if printed = "inf" then "Infinity".toList
  else if printed = "-inf" then "-Infinity".toList
  else printed.toList

mutual

/-- `json.dumps(value, separators=(",", ":"))`, where it does not raise. -/
def text : Json → List Char
  | .null => "null".toList
  | .bool true => "true".toList
  | .bool false => "false".toList
  | .int value => (toString value).toList
  | .float printed => floatText printed
  | .string value => quoted value
  | .array [] => ['[', ']']
  | .array (value :: values) => '[' :: text value ++ moreItems values
  | .object [] => ['\x7b', '\x7d']
  | .object ((key, value) :: members) =>
      '\x7b' :: quoted key ++ ':' :: text value ++ moreMembers members

def moreItems : List Json → List Char
  | [] => [']']
  | value :: values => ',' :: text value ++ moreItems values

def moreMembers : List (String × Json) → List Char
  | [] => ['\x7d']
  | (key, value) :: members => ',' :: quoted key ++ ':' :: text value ++ moreMembers members

end

mutual

/-- The first excess of a value inside some open containers, in the order of its text. -/
def firstExcess (limits : Limits) (depth : Nat) : Json → Option Excess
  | .int value =>
      if limits.tooLong (toString value.natAbs).length then some .digits else none
  | .array values =>
      if limits.nesting < depth + 1 then some .nesting
      else itemsExcess limits (depth + 1) values
  | .object members =>
      if limits.nesting < depth + 1 then some .nesting
      else membersExcess limits (depth + 1) members
  | _ => none

def itemsExcess (limits : Limits) (depth : Nat) : List Json → Option Excess
  | [] => none
  | value :: values => (firstExcess limits depth value).or (itemsExcess limits depth values)

def membersExcess (limits : Limits) (depth : Nat) : List (String × Json) → Option Excess
  | [] => none
  | (_, value) :: members =>
      (firstExcess limits depth value).or (membersExcess limits depth members)

end

def dumps (limits : Limits) (value : Json) : Except Excess (List Char) :=
  match firstExcess limits 0 value with
  | some kind => .error kind
  | none => .ok (text value)

end Agtp.JsonText
