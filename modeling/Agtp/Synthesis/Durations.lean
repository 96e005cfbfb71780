import Agtp.Foundation.Conversions
import Agtp.Foundation.WholeFloats

/-! # Durations

The durations of a PROPOSE and of the configuration: how they are read, granted and
shown. A number of seconds is the whole double that the code computes with, and a time is
the number of microseconds since the start of the calendar. -/

namespace Agtp.Durations

class DecimalDigits where
  digit : Char → Option Nat
  digit_ascii : ∀ character, character.toNat < 128 → digit character =
    if character.isDigit then some (character.toNat - '0'.toNat) else none
  not_space : ∀ character, (digit character).isSome → Text.isSpace character = false

section

variable [DecimalDigits]

def isDecimal (character : Char) : Bool :=
  (DecimalDigits.digit character).isSome

def valueOf (digits : List Char) : Nat :=
  digits.foldl (fun value character =>
    10 * value + (DecimalDigits.digit character).getD 0) 0

/-! ## Reading and showing -/

def isUnit (character : Char) : Bool :=
  character.toLower ∈ ['s', 'm', 'h', 'd', 'ſ']

/-- `_UNIT_TO_SECONDS`, at the unit in lower case. -/
def unitToSeconds (unit : Char) : Option Nat :=
  match unit.toLower with
  | 's' => some 1
  | 'm' => some 60
  | 'h' => some (60 * 60)
  | 'd' => some (60 * 60 * 24)
  | _ => none

def durationMatch (text : String) : Option (List Char × Char) :=
  let start := text.toList.dropWhile Text.isSpace
  match start.takeWhile isDecimal, (start.dropWhile isDecimal).dropWhile Text.isSpace with
  | first :: digits, unit :: rest =>
      if isUnit unit && rest.all Text.isSpace then some (first :: digits, unit) else none
  | _, _ => none

def maxDigits : Nat := 4300

def parseDuration (text : String) : Except Raised Nat :=
  match durationMatch text with
  | none => .error .valueError
  | some (digits, unit) =>
      if maxDigits < digits.length then .error .valueError
      else
        match unitToSeconds unit with
        | none => .error .keyError
        | some scale =>
            match WholeFloat.ofNat (valueOf digits * scale) with
            | none => .error .overflowError
            | some seconds => .ok seconds

def written (number : Nat) (unit : Char) : Except Raised String :=
  let digits := Nat.toDigits 10 number
  if maxDigits < digits.length then .error .valueError
  else .ok (String.ofList (digits ++ [unit]))

def formatDurationSeconds (seconds : Nat) : Except Raised String :=
  if seconds = 0 then written 0 's'
  else if seconds % (60 * 60 * 24) = 0 then written (seconds / (60 * 60 * 24)) 'd'
  else if seconds % (60 * 60) = 0 then written (seconds / (60 * 60)) 'h'
  else if seconds % 60 = 0 then written (seconds / 60) 'm'
  else written seconds 's'

/-! ## Granting -/

/-- The synthesis part of the configuration. An empty duration is none. -/
structure SynthesisConfig where
  sessionDuration : String
  persistentDefaultDuration : String
  persistentMaxDuration : String
  asyncEvaluationEnabled : Bool

def calendarEnd : Nat := 3652059 * 86400 * 10 ^ 6

def addSeconds (now seconds : Nat) : Except Raised Nat :=
  if 999999999 < seconds / 86400 then .error .overflowError
  else if now + seconds * 10 ^ 6 < calendarEnd then .ok (now + seconds * 10 ^ 6)
  else .error .overflowError

def expiration (now seconds : Nat) : Except Raised (Option Nat × Option String) := do
  let granted ← formatDurationSeconds seconds
  let expiresAt ← addSeconds now seconds
  return (some expiresAt, some granted)

def computeExpiration (config : Option SynthesisConfig) (persistent : Bool)
    (requested : Option Nat) (now : Nat) : Except Raised (Option Nat × Option String) :=
  match config with
  | none => .ok (none, none)
  | some config =>
      if persistent then do
        let limit ← if config.persistentMaxDuration = "" then pure none
          else (parseDuration config.persistentMaxDuration).map some
        let asked ← match requested with
          | some seconds => pure (some seconds)
          | none =>
              if config.persistentDefaultDuration = "" then pure none
              else (parseDuration config.persistentDefaultDuration).map some
        match asked with
        | none => return (none, none)
        | some seconds => expiration now (match limit with
            | some limit => if limit < seconds then limit else seconds
            | none => seconds)
      else if config.sessionDuration = "" then .ok (none, none)
      else do
        let seconds ← parseDuration config.sessionDuration
        expiration now seconds

/-! ## PROPOSE -/

inductive ProposeResponse where
  | malformed (requestedDuration : Json)
  | negotiationInProgress (persistent : Bool) (requested : Option Nat)
  | approved (persistent : Bool) (expiresAt : Option Nat) (granted : Option String)
  | rejected

def requestedSeconds [TextOf] (params : List (String × Json)) : Except Raised (Option Nat) :=
  match Json.get params "requested_duration" with
  | .null => .ok none
  | raw => (parseDuration raw.str).map some

/-- `handle_propose`, from the requested duration on. `stored` says that there is a store of
proposals, and `composed` that the runtime finds a plan. -/
def handlePropose [TextOf] (config : Option SynthesisConfig) (stored composed : Bool)
    (params : List (String × Json)) (now : Nat) : Except Raised ProposeResponse :=
  let persistent := (Json.get params "persistent").truthy
  match requestedSeconds params with
  | .error .valueError => .ok (.malformed (Json.get params "requested_duration"))
  | .error raised => .error raised
  | .ok requested =>
      if config.any (·.asyncEvaluationEnabled) && stored then
        .ok (.negotiationInProgress persistent requested)
      else if composed then
        (computeExpiration config persistent requested now).map fun outcome =>
          .approved persistent outcome.1 outcome.2
      else .ok .rejected

/-! ## What is shown is read -/

theorem digit_of_isDigit {character : Char} (digit : character.isDigit = true) :
    DecimalDigits.digit character = some (character.toNat - '0'.toNat) := by
  have ascii : character.toNat < 128 := by
    have upper : character.toNat ≤ 57 := (Char.isDigit_iff_toNat.mp digit).2
    omega
  rw [DecimalDigits.digit_ascii character ascii, if_pos digit]

theorem valueOf_toDigits (number : Nat) : valueOf (Nat.toDigits 10 number) = number := by
  have values : ∀ digits : List Char, (∀ character ∈ digits, character.isDigit = true) →
      ∀ start, digits.foldl (fun value character =>
        10 * value + (DecimalDigits.digit character).getD 0) start =
          Nat.ofDigitChars 10 digits start := by
    intro digits
    induction digits with
    | nil => exact fun _ _ => rfl
    | cons character digits induction =>
        intro decimal start
        rw [List.foldl_cons, digit_of_isDigit (decimal character List.mem_cons_self),
          induction fun other member => decimal other (List.mem_cons_of_mem _ member)]
        rfl
  rw [valueOf, values _ fun _ member => Nat.isDigit_of_mem_toDigits (by decide) (by decide) member]
  exact Nat.ofDigitChars_ten_toDigits

theorem durationMatch_written {number : Nat} {unit : Char}
    (known : unit ∈ ['s', 'm', 'h', 'd']) :
    durationMatch (String.ofList (Nat.toDigits 10 number ++ [unit])) =
      some (Nat.toDigits 10 number, unit) := by
  have decimal : ∀ character ∈ Nat.toDigits 10 number, isDecimal character = true := by
    intro character member
    rw [isDecimal, digit_of_isDigit (Nat.isDigit_of_mem_toDigits (by decide) (by decide) member)]
    rfl
  have letter : isDecimal unit = false ∧ Text.isSpace unit = false ∧ isUnit unit = true := by
    simp only [List.mem_cons, List.not_mem_nil, or_false] at known
    rcases known with rfl | rfl | rfl | rfl <;>
      exact ⟨by rw [isDecimal, DecimalDigits.digit_ascii _ (by decide)]; rfl, by decide,
        by decide⟩
  cases digits : Nat.toDigits 10 number with
  | nil => exact absurd digits (List.ne_nil_of_length_pos Nat.length_toDigits_pos)
  | cons first rest =>
      rw [digits] at decimal
      have solid : Text.isSpace first = false :=
        DecimalDigits.not_space first (decimal first List.mem_cons_self)
      have start : (first :: rest ++ [unit]).dropWhile Text.isSpace = first :: rest ++ [unit] := by
        rw [List.cons_append, List.dropWhile_cons_of_neg (by simp [solid])]
      simp only [durationMatch, String.toList_ofList, start,
        List.takeWhile_append_of_pos decimal, List.dropWhile_append_of_pos decimal]
      simp [letter]

theorem parseDuration_written {number scale : Nat} {unit : Char} {text : String}
    (known : unit ∈ ['s', 'm', 'h', 'd']) (scaled : unitToSeconds unit = some scale)
    (shown : written number unit = .ok text) :
    parseDuration text =
      match WholeFloat.ofNat (number * scale) with
      | none => .error .overflowError
      | some seconds => .ok seconds := by
  simp only [written] at shown
  split at shown
  · cases shown
  · next short =>
      cases shown
      simp only [parseDuration, durationMatch_written known, if_neg short, scaled,
        valueOf_toDigits]

theorem parseDuration_format {seconds : Nat} {text : String}
    (shown : formatDurationSeconds seconds = .ok text) :
    parseDuration text =
      match WholeFloat.ofNat seconds with
      | none => .error .overflowError
      | some seconds => .ok seconds := by
  simp only [formatDurationSeconds] at shown
  split at shown
  · next zero =>
      rw [parseDuration_written (by decide) rfl shown, zero, Nat.mul_one]
  · split at shown
    · next days =>
        rw [parseDuration_written (by decide) rfl shown,
          Nat.div_mul_cancel (Nat.dvd_of_mod_eq_zero days)]
    · split at shown
      · next hours =>
          rw [parseDuration_written (by decide) rfl shown,
            Nat.div_mul_cancel (Nat.dvd_of_mod_eq_zero hours)]
      · split at shown
        · next minutes =>
            rw [parseDuration_written (by decide) rfl shown,
              Nat.div_mul_cancel (Nat.dvd_of_mod_eq_zero minutes)]
        · rw [parseDuration_written (by decide) rfl shown, Nat.mul_one]

omit [DecimalDigits] in
theorem formatDurationSeconds_ok {seconds : Nat} (bounded : seconds < 2 ^ 1024) :
    ∃ text, formatDurationSeconds seconds = .ok text := by
  have short : ∀ number ≤ seconds, ∀ unit, ∃ text, written number unit = .ok text := by
    intro number within unit
    have size : number < 10 ^ maxDigits :=
      within.trans_lt (bounded.trans (by rw [maxDigits]; decide +kernel))
    have few : ¬ maxDigits < (Nat.toDigits 10 number).length :=
      Nat.not_lt.mpr ((Nat.length_toDigits_le_iff (by decide) (by decide)).mpr size)
    exact ⟨_, if_neg few⟩
  simp only [formatDurationSeconds]
  split
  · exact short 0 (Nat.zero_le _) _
  · split
    · exact short _ (Nat.div_le_self _ _) _
    · split
      · exact short _ (Nat.div_le_self _ _) _
      · split
        · exact short _ (Nat.div_le_self _ _) _
        · exact short _ (Nat.le_refl _) _

theorem representable_of_parse {text : String} {seconds : Nat}
    (read : parseDuration text = .ok seconds) : WholeFloat.Representable seconds := by
  simp only [parseDuration] at read
  split at read
  · cases read
  · split at read
    · cases read
    · split at read
      · cases read
      · split at read
        · cases read
        · next converted =>
            cases read
            exact WholeFloat.representable_of_ofNat converted

def RoundTrips (seconds : Nat) : Prop :=
  ∃ text, formatDurationSeconds seconds = .ok text ∧ parseDuration text = .ok seconds

theorem readBack_iff (seconds : Nat) :
    RoundTrips seconds ↔ WholeFloat.Representable seconds := by
  constructor
  · intro ⟨_, _, read⟩
    exact representable_of_parse read
  · intro representable
    rcases formatDurationSeconds_ok representable.1 with ⟨text, shown⟩
    refine ⟨text, shown, ?_⟩
    rw [parseDuration_format shown, (WholeFloat.ofNat_eq_self_iff seconds).mpr representable]

/-! ## What is raised -/

def Unexpected (text : String) : Prop :=
  ∃ digits unit, durationMatch text = some (digits, unit) ∧ digits.length ≤ maxDigits ∧
    (unitToSeconds unit = none ∨ ∃ scale, unitToSeconds unit = some scale ∧
      WholeFloat.overflow ≤ valueOf digits * scale)

theorem parseDuration_raises_iff (text : String) :
    (∃ raised, parseDuration text = .error raised ∧ raised ≠ .valueError) ↔
      Unexpected text := by
  constructor
  · intro ⟨raised, failed, other⟩
    simp only [parseDuration] at failed
    split at failed
    · exact absurd (Except.error.inj failed).symm other
    · next digits unit found =>
        split at failed
        · exact absurd (Except.error.inj failed).symm other
        · next short =>
            refine ⟨digits, unit, found, Nat.not_lt.mp short, ?_⟩
            split at failed
            · next unknown => exact .inl unknown
            · next scale known =>
                split at failed
                · next large => exact .inr ⟨scale, known, (WholeFloat.ofNat_eq_none_iff _).mp large⟩
                · cases failed
  · intro ⟨digits, unit, found, short, cause⟩
    rcases cause with unknown | ⟨scale, known, large⟩
    · refine ⟨.keyError, ?_, nofun⟩
      simp only [parseDuration, found, if_neg (Nat.not_lt.mpr short), unknown]
    · refine ⟨.overflowError, ?_, nofun⟩
      simp only [parseDuration, found, if_neg (Nat.not_lt.mpr short), known,
        (WholeFloat.ofNat_eq_none_iff _).mpr large]

def ReadsOrRefuses (text : String) : Prop :=
  (∃ seconds, parseDuration text = .ok seconds) ∨ parseDuration text = .error .valueError

theorem readsOrRefuses_iff (text : String) : ReadsOrRefuses text ↔ ¬ Unexpected text := by
  rw [← parseDuration_raises_iff]
  unfold ReadsOrRefuses
  cases parseDuration text with
  | ok seconds => exact iff_of_true (.inl ⟨seconds, rfl⟩) nofun
  | error raised => simp

/-! ## What is granted -/

/-- The durations of a configuration, in seconds. -/
structure Terms where
  session : Option Nat
  byDefault : Option Nat
  limit : Option Nat

def Means (text : String) (seconds : Option Nat) : Prop :=
  (text = "" ∧ seconds = none) ∨
    text ≠ "" ∧ ∃ value, seconds = some value ∧ parseDuration text = .ok value

structure Parses (config : SynthesisConfig) (terms : Terms) : Prop where
  session : Means config.sessionDuration terms.session
  byDefault : Means config.persistentDefaultDuration terms.byDefault
  limit : Means config.persistentMaxDuration terms.limit

def Terms.granted (terms : Terms) (persistent : Bool) (requested : Option Nat) : Option Nat :=
  if persistent then
    (requested <|> terms.byDefault).map fun seconds => terms.limit.elim seconds (min seconds)
  else terms.session

/-- The computation returns what is to be granted: a text that denotes it, and the time
after it. No grant is longer than the limit. -/
def Grants (config : SynthesisConfig) (terms : Terms) (persistent : Bool)
    (requested : Option Nat) (now : Nat) : Prop :=
  (∃ expiresAt text,
    computeExpiration (some config) persistent requested now = .ok (expiresAt, text) ∧
    expiresAt = (terms.granted persistent requested).map (now + · * 10 ^ 6) ∧
    text.map parseDuration = (terms.granted persistent requested).map .ok) ∧
  ∀ seconds ∈ terms.granted persistent requested, ∀ limit ∈ terms.limit, seconds ≤ limit

def Terms.Fits (terms : Terms) (persistent : Bool) (requested : Option Nat) (now : Nat) : Prop :=
  ∀ seconds ∈ terms.granted persistent requested, now + seconds * 10 ^ 6 < calendarEnd

omit [DecimalDigits] in
theorem addSeconds_eq (now seconds : Nat) : addSeconds now seconds =
    if now + seconds * 10 ^ 6 < calendarEnd then .ok (now + seconds * 10 ^ 6)
    else .error .overflowError := by
  unfold addSeconds
  split
  · next long =>
      have past : ¬ now + seconds * 10 ^ 6 < calendarEnd := by
        rw [calendarEnd]
        omega
      rw [if_neg past]
  · rfl

theorem computeExpiration_eq {config : SynthesisConfig} {terms : Terms}
    (parses : Parses config terms) (persistent : Bool) (requested : Option Nat) (now : Nat) :
    computeExpiration (some config) persistent requested now =
      match terms.granted persistent requested with
      | none => .ok (none, none)
      | some seconds => expiration now seconds := by
  rcases parses with ⟨session, byDefault, limit⟩
  rcases terms with ⟨_, _, _⟩
  cases persistent with
  | false =>
      rcases session with ⟨empty, rfl⟩ | ⟨set, value, rfl, read⟩
      · simp [computeExpiration, Terms.granted, empty]
      · simp [computeExpiration, Terms.granted, set, read, bind, Except.bind]
  | true =>
      have capped : ∀ seconds value : Nat,
          (if value < seconds then value else seconds) = min seconds value := by
        intro seconds value
        split <;> omega
      rcases limit with ⟨unlimited, rfl⟩ | ⟨limited, value, rfl, read⟩ <;>
        cases requested <;>
        rcases byDefault with ⟨empty, rfl⟩ | ⟨set, usual, rfl, readUsual⟩ <;>
        simp_all [computeExpiration, Terms.granted, bind, Except.bind, pure, Except.pure,
          Except.map]

theorem Means.representable {text : String} {seconds : Option Nat} (means : Means text seconds) :
    ∀ value ∈ seconds, WholeFloat.Representable value := by
  intro value held
  rcases means with ⟨_, rfl⟩ | ⟨_, other, rfl, read⟩
  · cases held
  · cases held
    exact representable_of_parse read

theorem granted_representable {config : SynthesisConfig} {terms : Terms}
    (parses : Parses config terms) {persistent : Bool} {requested : Option Nat}
    (asked : ∀ seconds ∈ requested, WholeFloat.Representable seconds) :
    ∀ seconds ∈ terms.granted persistent requested, WholeFloat.Representable seconds := by
  intro seconds granted
  cases persistent with
  | false => exact parses.session.representable seconds granted
  | true =>
      rcases Option.map_eq_some_iff.mp granted with ⟨wanted, chosen, rfl⟩
      have whole : WholeFloat.Representable wanted := by
        cases requested with
        | none => exact parses.byDefault.representable wanted chosen
        | some seconds => exact asked wanted chosen
      cases limited : terms.limit with
      | none => exact whole
      | some limit =>
          rw [Option.elim_some]
          rcases min_choice wanted limit with same | same
          · rwa [same]
          · rw [same]
            exact parses.limit.representable limit limited

section Computed

variable {config : SynthesisConfig} {terms : Terms} (parses : Parses config terms)
  {persistent : Bool} {requested : Option Nat}
  (asked : ∀ seconds ∈ requested, WholeFloat.Representable seconds) {now : Nat}
include parses asked

theorem computeExpiration_returns (fits : terms.Fits persistent requested now) :
    ∃ expiresAt text,
      computeExpiration (some config) persistent requested now = .ok (expiresAt, text) ∧
      expiresAt = (terms.granted persistent requested).map (now + · * 10 ^ 6) ∧
      text.map parseDuration = (terms.granted persistent requested).map .ok := by
  rw [computeExpiration_eq parses]
  cases granted : terms.granted persistent requested with
  | none => exact ⟨none, none, rfl, rfl, rfl⟩
  | some seconds =>
      rcases (readBack_iff seconds).mpr (granted_representable parses asked seconds granted) with
        ⟨text, shown, read⟩
      refine ⟨some (now + seconds * 10 ^ 6), some text, ?_, rfl, congrArg some read⟩
      simp only [expiration, shown, addSeconds_eq, if_pos (fits seconds granted)]
      rfl

theorem computeExpiration_overflows (unfit : ¬ terms.Fits persistent requested now) :
    computeExpiration (some config) persistent requested now = .error .overflowError := by
  rw [computeExpiration_eq parses]
  cases granted : terms.granted persistent requested with
  | none => exact absurd (fun seconds held => by rw [granted] at held; cases held) unfit
  | some seconds =>
      rcases (readBack_iff seconds).mpr (granted_representable parses asked seconds granted) with
        ⟨text, shown, _⟩
      have late : ¬ now + seconds * 10 ^ 6 < calendarEnd := by
        intro early
        apply unfit
        intro other held
        rw [granted] at held
        cases held
        exact early
      simp only [expiration, shown, addSeconds_eq, if_neg late]
      rfl

end Computed

theorem grants_iff {config : SynthesisConfig} {terms : Terms} (parses : Parses config terms)
    (persistent : Bool) {requested : Option Nat}
    (asked : ∀ seconds ∈ requested, WholeFloat.Representable seconds) (now : Nat) :
    Grants config terms persistent requested now ↔
      terms.Fits persistent requested now ∧ (persistent = true ∨
        ∀ seconds ∈ terms.session, ∀ limit ∈ terms.limit, seconds ≤ limit) := by
  have bounded : (∀ seconds ∈ terms.granted persistent requested, ∀ limit ∈ terms.limit,
      seconds ≤ limit) ↔ (persistent = true ∨
        ∀ seconds ∈ terms.session, ∀ limit ∈ terms.limit, seconds ≤ limit) := by
    cases persistent with
    | false => simp [Terms.granted]
    | true =>
        refine iff_of_true ?_ (.inl rfl)
        intro seconds granted limit limited
        rcases Option.map_eq_some_iff.mp granted with ⟨wanted, _, rfl⟩
        rw [Option.mem_def.mp limited]
        exact Nat.min_le_right wanted limit
  rw [Grants, bounded]
  apply and_congr_left'
  constructor
  · intro ⟨expiresAt, text, returned, _⟩
    by_contra unfit
    rw [computeExpiration_overflows parses asked unfit] at returned
    cases returned
  · exact computeExpiration_returns parses asked

/-! ## What a PROPOSE is answered -/

section Answers

variable [TextOf]

def Answers (config : SynthesisConfig) (stored composed : Bool) (params : List (String × Json))
    (now : Nat) : Prop :=
  ∃ response, handlePropose (some config) stored composed params now = .ok response ∧
    (requestedSeconds params = .error .valueError →
      response = .malformed (Json.get params "requested_duration"))

def UnexpectedRequest (params : List (String × Json)) : Prop :=
  Json.get params "requested_duration" ≠ .null ∧
    Unexpected (Json.get params "requested_duration").str

theorem requestedSeconds_raises_iff (params : List (String × Json)) :
    (∃ raised, requestedSeconds params = .error raised ∧ raised ≠ .valueError) ↔
      UnexpectedRequest params := by
  rw [UnexpectedRequest, ← parseDuration_raises_iff, requestedSeconds]
  split
  · next absent => simp [absent]
  · next raw given =>
      have present : Json.get params "requested_duration" ≠ .null := given
      cases parseDuration (Json.get params "requested_duration").str <;>
        simp [present, Except.map]

theorem representable_of_requested {params : List (String × Json)} {requested : Option Nat}
    (asked : requestedSeconds params = .ok requested) :
    ∀ seconds ∈ requested, WholeFloat.Representable seconds := by
  intro seconds held
  rw [requestedSeconds] at asked
  split at asked
  · cases asked
    cases held
  · cases read : parseDuration (Json.get params "requested_duration").str with
    | error _ =>
        rw [read] at asked
        cases asked
    | ok value =>
        rw [read] at asked
        cases asked
        cases held
        exact representable_of_parse read

theorem answers_iff {config : SynthesisConfig} {terms : Terms} (parses : Parses config terms)
    (stored composed : Bool) (params : List (String × Json)) (now : Nat) :
    Answers config stored composed params now ↔
      ¬ UnexpectedRequest params ∧ ∀ requested, requestedSeconds params = .ok requested →
        (config.asyncEvaluationEnabled && stored) = true ∨ composed = false ∨
          terms.Fits (Json.get params "persistent").truthy requested now := by
  rw [← requestedSeconds_raises_iff]
  unfold Answers handlePropose
  cases asked : requestedSeconds params with
  | error raised => cases raised <;> simp
  | ok requested =>
      have whole := representable_of_requested asked
      cases waits : config.asyncEvaluationEnabled && stored with
      | true => simp [waits]
      | false =>
          cases composed with
          | false => simp [waits]
          | true =>
              by_cases fits : terms.Fits (Json.get params "persistent").truthy requested now
              · rcases computeExpiration_returns parses whole fits with ⟨_, _, returned, _⟩
                simp [waits, returned, fits, Except.map]
              · simp [waits, computeExpiration_overflows parses whole fits, fits, Except.map]

/-- Numbers of seconds are shown and read back where they are doubles. Reading fails in an
unexpected way on the long s and above the doubles. What is granted is as configured and
PROPOSE is answered where its duration is read, or refused, and the grant ends within the
calendar. -/
theorem durations_hold_iff :
    (∀ seconds, RoundTrips seconds ↔ WholeFloat.Representable seconds) ∧
    (∀ text, ReadsOrRefuses text ↔ ¬ Unexpected text) ∧
    ∀ (config : SynthesisConfig) (terms : Terms), Parses config terms →
      ∀ (params : List (String × Json)) (now : Nat),
        (∀ (persistent : Bool) requested, requestedSeconds params = .ok requested →
          (Grants config terms persistent requested now ↔
            terms.Fits persistent requested now ∧ (persistent = true ∨
              ∀ seconds ∈ terms.session, ∀ limit ∈ terms.limit, seconds ≤ limit))) ∧
        ∀ stored composed, Answers config stored composed params now ↔
          ¬ UnexpectedRequest params ∧ ∀ requested, requestedSeconds params = .ok requested →
            (config.asyncEvaluationEnabled && stored) = true ∨ composed = false ∨
              terms.Fits (Json.get params "persistent").truthy requested now := by
  refine ⟨readBack_iff, readsOrRefuses_iff, ?_⟩
  intro config terms parses params now
  exact ⟨fun persistent requested asked =>
      grants_iff parses persistent (representable_of_requested asked) now,
    fun stored composed => answers_iff parses stored composed params now⟩

end Answers

end

namespace Samples

open scoped Plain

scoped instance : DecimalDigits where
  digit character := if character.isDigit then some (character.toNat - '0'.toNat) else none
  digit_ascii := fun _ _ => rfl
  not_space := by
    intro character digit
    have bounds : 48 ≤ character.toNat ∧ character.toNat ≤ 57 := by
      split at digit
      · next decimal => exact Char.isDigit_iff_toNat.mp decimal
      · cases digit
    simp only [Text.isSpace]
    simp
    omega

def config : SynthesisConfig := ⟨"24h", "7d", "30d", false⟩

def terms : Terms := ⟨some 86400, some 604800, some 2592000⟩

theorem config_parses : Parses config terms where
  session := .inr ⟨by decide, _, rfl, by decide +kernel⟩
  byDefault := .inr ⟨by decide, _, rfl, by decide +kernel⟩
  limit := .inr ⟨by decide, _, rfl, by decide +kernel⟩

def long : SynthesisConfig := { config with sessionDuration := "9999999d" }

theorem long_parses : Parses long { terms with session := some 863999913600 } :=
  ⟨.inr ⟨by decide, _, rfl, by decide +kernel⟩, config_parses.byDefault, config_parses.limit⟩

theorem durations_fail :
    ¬ RoundTrips (2 ^ 53 + 1) ∧ ¬ ReadsOrRefuses "5ſ" ∧
    (Parses config terms ∧
      ¬ Answers config false true [("requested_duration", .string "5ſ")] 0) ∧
    (Parses long { terms with session := some 863999913600 } ∧
      ¬ Answers long false true [] 0) := by
  refine ⟨?_, ?_, ⟨config_parses, ?_⟩, ?_, ?_⟩
  · rw [readBack_iff, ← WholeFloat.ofNat_eq_self_iff]
    decide +kernel
  · have raised : parseDuration "5ſ" = .error .keyError := by decide +kernel
    rw [ReadsOrRefuses, raised]
    simp
  · intro ⟨_, answered, _⟩
    cases answered
  · exact long_parses
  · rw [answers_iff long_parses]
    intro ⟨_, fits⟩
    rcases fits none rfl with waits | idle | within
    · cases waits
    · cases idle
    · exact absurd (within 863999913600 rfl) (by decide)

theorem week_granted : Grants config terms true (some 604800) 0 :=
  ((durations_hold_iff.2.2 config terms config_parses
    [("requested_duration", .string "7d")] 0).1 true (some 604800) (by decide +kernel)).mpr
      ⟨by intro seconds held; cases held; decide, .inl rfl⟩

end Samples

end Agtp.Durations
