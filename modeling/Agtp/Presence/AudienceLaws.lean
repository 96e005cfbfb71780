import Agtp.Foundation.Brackets
import Agtp.Presence.Visibility

/-! # How an audience expression is read

What the parser takes of an expression is balanced, and is read the same wherever it stands. -/

namespace Agtp

namespace Audience

def parentheses : Brackets String := ⟨"(", ")", by decide⟩

section Laws

variable [TextCase]

/-! ## Operators -/

def Ends (tokens : List String) : Prop :=
  ∀ token rest, tokens = token :: rest → upper token ≠ "AND" ∧ upper token ≠ "OR"

theorem ends_nil : Ends [] := nofun

theorem upper_opening : upper "(" = "(" := by
  rw [TextCase.upper_ascii "(" (by decide)]
  decide

theorem upper_closing : upper ")" = ")" := by
  rw [TextCase.upper_ascii ")" (by decide)]
  decide

theorem ends_closing (rest : List String) : Ends (")" :: rest) := by
  intro token others same
  cases same
  rw [upper_closing]
  decide

theorem balanced_operator {token operator : String} (written : upper token = operator)
    (known : operator ∈ ["AND", "OR", "NOT"]) : parentheses.Balanced [token] := by
  apply Brackets.balanced_singleton
  · rintro rfl
    rw [parentheses, upper_opening] at written
    rw [← written] at known
    exact absurd known (by decide)
  · rintro rfl
    rw [parentheses, upper_closing] at written
    rw [← written] at known
    exact absurd known (by decide)

/-! ## Parsers -/

/-- A parser takes a balanced part of what it is given, and takes and answers the same
where the part is followed by something else that it stops at. -/
structure Regular (parser : Parser) : Prop where
  consumes : ∀ tokens value rest, parser tokens = .ok (value, rest) →
    ∃ taken, tokens = taken ++ rest ∧ parentheses.Balanced taken ∧ taken ≠ []
  moves : ∀ taken left value rest other, Ends rest → Ends other →
    parser (taken ++ rest) = .ok (value, left ++ rest) →
      parser (taken ++ other) = .ok (value, left ++ other)

theorem regular_failing (failure : Failure) : Regular fun _ => .error failure where
  consumes := nofun
  moves := nofun

section Joined

variable {operator : String} {join : Bool → Bool → Bool} {operand : Parser}

omit [TextCase] in
theorem joinRest_nil [TextCase] (turns : Nat) (value : Bool) :
    joinRest operator join operand turns value [] = .ok (value, []) := by
  cases turns <;> rfl

theorem joinRest_other {token : String} (other : upper token ≠ operator) (turns : Nat)
    (value : Bool) (rest : List String) :
    joinRest operator join operand turns value (token :: rest) = .ok (value, token :: rest) := by
  cases turns with
  | zero => rfl
  | succ turns =>
      rw [joinRest]
      exact if_neg other

theorem joinRest_operator {token : String} (written : upper token = operator) (turns : Nat)
    (value : Bool) (rest : List String) :
    joinRest operator join operand (turns + 1) value (token :: rest) =
      match operand rest with
      | .error failure => .error failure
      | .ok (next, rest) => joinRest operator join operand turns (join value next) rest := by
  rw [joinRest]
  exact if_pos written

theorem joinRest_turn {turns : Nat} {value : Bool} {tokens : List String}
    {result : Bool × List String}
    (ended : joinRest operator join operand (turns + 1) value tokens = .ok result) :
    result = (value, tokens) ∧ (∀ token ∈ tokens.head?, upper token ≠ operator) ∨
      ∃ token others next middle, tokens = token :: others ∧ upper token = operator ∧
        operand others = .ok (next, middle) ∧
        joinRest operator join operand turns (join value next) middle = .ok result := by
  cases tokens with
  | nil =>
      cases ended
      exact .inl ⟨rfl, nofun⟩
  | cons token others =>
      by_cases written : upper token = operator
      · rw [joinRest_operator written] at ended
        cases parsed : operand others with
        | error failure =>
            rw [parsed] at ended
            cases ended
        | ok next =>
            rw [parsed] at ended
            exact .inr ⟨token, others, next.1, next.2, rfl, written, parsed, ended⟩
      · rw [joinRest_other written] at ended
        cases ended
        refine .inl ⟨rfl, ?_⟩
        intro head first
        rwa [← Option.some.inj first]

theorem joinRest_of_ends (known : operator ∈ ["AND", "OR"]) {rest : List String}
    (ends : Ends rest) (turns : Nat) (value : Bool) :
    joinRest operator join operand turns value rest = .ok (value, rest) := by
  cases rest with
  | nil => exact joinRest_nil turns value
  | cons token others =>
      apply joinRest_other
      rcases ends token others rfl with ⟨notAnd, notOr⟩
      rcases List.mem_cons.mp known with rfl | last
      · exact notAnd
      · rwa [List.mem_singleton.mp last]

theorem consumes_joinRest (known : operator ∈ ["AND", "OR"]) (regular : Regular operand)
    {turns : Nat} {value answer : Bool} {tokens rest : List String}
    (ended : joinRest operator join operand turns value tokens = .ok (answer, rest)) :
    ∃ taken, tokens = taken ++ rest ∧ parentheses.Balanced taken := by
  induction turns generalizing value tokens with
  | zero =>
      cases ended
      exact ⟨[], rfl, Brackets.balanced_nil⟩
  | succ turns induction =>
      rcases joinRest_turn ended with
        ⟨same, _⟩ | ⟨token, others, next, middle, rfl, written, parsed, later⟩
      · cases same
        exact ⟨[], rfl, Brackets.balanced_nil⟩
      · rcases regular.consumes others next middle parsed with ⟨first, rfl, balanced, _⟩
        rcases induction later with ⟨second, rfl, others⟩
        refine ⟨[token] ++ first ++ second, by simp, ?_⟩
        have own := balanced_operator written (List.mem_append_left ["NOT"] known)
        exact (own.append balanced).append others

theorem moves_joinRest (known : operator ∈ ["AND", "OR"]) (regular : Regular operand)
    {turns others : Nat} {value answer : Bool} {taken left rest other : List String}
    (ends : Ends rest) (otherEnds : Ends other) (enough : (taken ++ rest).length ≤ turns)
    (otherEnough : (taken ++ other).length ≤ others)
    (ended : joinRest operator join operand turns value (taken ++ rest) =
      .ok (answer, left ++ rest)) :
    joinRest operator join operand others value (taken ++ other) =
      .ok (answer, left ++ other) := by
  induction turns generalizing others value taken with
  | zero =>
      have nothing := List.length_eq_zero_iff.mp (Nat.le_zero.mp enough)
      rcases List.append_eq_nil_iff.mp nothing with ⟨rfl, rfl⟩
      cases left with
      | nil =>
          cases ended
          exact joinRest_of_ends known otherEnds others _
      | cons token tail => cases ended
  | succ turns induction =>
      cases taken with
      | nil =>
          rw [List.nil_append, joinRest_of_ends known ends] at ended
          rcases Prod.mk.inj (Except.ok.inj ended) with ⟨rfl, same⟩
          have empty : left = [] := List.self_eq_append_left.mp same
          rw [empty]
          exact joinRest_of_ends known otherEnds others value
      | cons token taken =>
          rw [List.cons_append] at ended enough otherEnough ⊢
          by_cases written : upper token = operator
          · cases others with
            | zero => cases otherEnough
            | succ others =>
                rw [joinRest_operator written] at ended ⊢
                cases parsed : operand (taken ++ rest) with
                | error failure =>
                    rw [parsed] at ended
                    cases ended
                | ok result =>
                    rcases result with ⟨next, middle⟩
                    rw [parsed] at ended
                    dsimp only at ended
                    -- What is left after the operand still ends in the given rest.
                    rcases consumes_joinRest known regular ended with ⟨second, rfl, _⟩
                    rw [← List.append_assoc] at parsed ended
                    have moved := regular.moves taken (second ++ left) next rest other ends
                      otherEnds parsed
                    rw [moved]
                    rcases regular.consumes _ _ _ parsed with ⟨first, whole, _⟩
                    rcases regular.consumes _ _ _ moved with ⟨otherFirst, otherWhole, _⟩
                    rw [whole, List.length_cons, List.length_append] at enough
                    rw [otherWhole, List.length_cons, List.length_append] at otherEnough
                    exact induction (by omega) (by omega) ended
          · rw [joinRest_other written] at ended ⊢
            rcases Prod.mk.inj (Except.ok.inj ended) with ⟨rfl, same⟩
            have kept : token :: taken = left := List.append_cancel_right same
            rw [← kept]
            rfl

theorem regular_joined (known : operator ∈ ["AND", "OR"]) (regular : Regular operand) :
    Regular (joined operator join operand) where
  consumes := by
    intro tokens value rest ended
    rw [joined] at ended
    cases parsed : operand tokens with
    | error failure =>
        rw [parsed] at ended
        cases ended
    | ok result =>
        rcases result with ⟨first, middle⟩
        rw [parsed] at ended
        rcases regular.consumes tokens first middle parsed with ⟨taken, rfl, balanced, some⟩
        rcases consumes_joinRest known regular ended with ⟨second, rfl, later⟩
        exact ⟨taken ++ second, by rw [List.append_assoc], balanced.append later,
          List.append_ne_nil_of_left_ne_nil some second⟩
  moves := by
    intro taken left value rest other ends otherEnds ended
    rw [joined] at ended ⊢
    cases parsed : operand (taken ++ rest) with
    | error failure =>
        rw [parsed] at ended
        cases ended
    | ok result =>
        rcases result with ⟨first, middle⟩
        rw [parsed] at ended
        dsimp only at ended
        rcases consumes_joinRest known regular ended with ⟨second, rfl, _⟩
        rw [← List.append_assoc] at parsed ended
        rw [regular.moves taken (second ++ left) first rest other ends otherEnds parsed]
        exact moves_joinRest known regular ends otherEnds le_rfl le_rfl ended

end Joined

/-! ## The grammar -/

variable [NumberText]

/-- `_not`, of a parser for another negation and one for an atom. -/
def negated (negation atom : Parser) : Parser := fun tokens =>
  match tokens with
  | [] => atom []
  | token :: rest =>
      if upper token = "NOT" then
        (negation rest).map fun result => (!result.1, result.2)
      else atom (token :: rest)

/-- `_atom`, of a parser for what is between parentheses. -/
def enclosed (inner : Parser) (requester : RequesterContext) : Parser := fun tokens =>
  match tokens with
  | [] => .error .malformed
  | token :: rest =>
      if token = "(" then
        match inner rest with
        | .error failure => .error failure
        | .ok (value, close :: rest) =>
            if close = ")" then .ok (value, rest) else .error .malformed
        | .ok (_, []) => .error .malformed
      else if token = ")" then .error .malformed
      else if upper token = "AND" ∨ upper token = "OR" ∨ upper token = "NOT" then
        .error .malformed
      else (evalPredicate token requester).map fun value => (value, rest)

omit [NumberText] in
theorem negated_cons (negation atom : Parser) (token : String) (rest : List String) :
    negated negation atom (token :: rest) =
      if upper token = "NOT" then
        (negation rest).map fun result => (!result.1, result.2)
      else atom (token :: rest) := rfl

omit [NumberText] in
theorem consumes_negated {inner atom : Parser} (innerRegular : Regular inner)
    (atomRegular : Regular atom) (tokens : List String) (value : Bool) (rest : List String)
    (ended : negated inner atom tokens = .ok (value, rest)) :
    ∃ taken, tokens = taken ++ rest ∧ parentheses.Balanced taken ∧ taken ≠ [] := by
  cases tokens with
  | nil => exact atomRegular.consumes [] value rest ended
  | cons token others =>
      rw [negated_cons] at ended
      split at ended
      · next written =>
          cases parsed : inner others with
          | error failure =>
              rw [parsed] at ended
              cases ended
          | ok result =>
              rw [parsed] at ended
              cases ended
              rcases innerRegular.consumes others result.1 result.2 parsed with
                ⟨taken, same, balanced, _⟩
              refine ⟨token :: taken, congrArg (token :: ·) same, ?_, List.cons_ne_nil _ _⟩
              exact (balanced_operator written (by decide)).append balanced
      · exact atomRegular.consumes _ value rest ended

omit [TextCase] [NumberText] in
theorem not_kept {taken left rest : List String} (some : taken ≠ [])
    (whole : rest = taken ++ (left ++ rest)) : False := by
  have lengths := congrArg List.length whole
  have filled := List.length_pos_iff.mpr some
  simp only [List.length_append] at lengths
  omega

omit [NumberText] in
theorem regular_negated {inner atom : Parser} (innerRegular : Regular inner)
    (atomRegular : Regular atom) : Regular (negated inner atom) where
  consumes := consumes_negated innerRegular atomRegular
  moves := by
    intro taken left value rest other ends otherEnds ended
    cases taken with
    | nil =>
        rcases consumes_negated innerRegular atomRegular _ _ _ ended with ⟨_, whole, _, some⟩
        exact (not_kept some whole).elim
    | cons token taken =>
        rw [List.cons_append, negated_cons] at ended ⊢
        split at ended
        · next written =>
            rw [if_pos written]
            cases parsed : inner (taken ++ rest) with
            | error failure =>
                rw [parsed] at ended
                cases ended
            | ok result =>
                rcases result with ⟨answer, middle⟩
                rw [parsed] at ended
                rcases Prod.mk.inj (Except.ok.inj ended) with ⟨rfl, same⟩
                dsimp only at same
                rw [same] at parsed
                rw [innerRegular.moves taken left answer rest other ends otherEnds parsed]
                rfl
        · next notWritten =>
            rw [if_neg notWritten]
            exact atomRegular.moves (token :: taken) left value rest other ends otherEnds ended

def Word (token : String) : Prop :=
  token ≠ "(" ∧ token ≠ ")" ∧ ¬(upper token = "AND" ∨ upper token = "OR" ∨ upper token = "NOT")

theorem enclosed_opening {inner : Parser} {requester : RequesterContext}
    {tokens rest : List String} {value : Bool} (parsed : inner tokens = .ok (value, ")" :: rest)) :
    enclosed inner requester ("(" :: tokens) = .ok (value, rest) := by
  rw [enclosed, if_pos rfl, parsed]
  exact if_pos rfl

theorem enclosed_word {inner : Parser} {requester : RequesterContext} {token : String}
    (word : Word token) (rest : List String) :
    enclosed inner requester (token :: rest) =
      (evalPredicate token requester).map fun value => (value, rest) := by
  rw [enclosed, if_neg word.1, if_neg word.2.1, if_neg word.2.2]

theorem enclosed_cases {inner : Parser} {requester : RequesterContext}
    {tokens rest : List String} {value : Bool}
    (ended : enclosed inner requester tokens = .ok (value, rest)) :
    (∃ tail, tokens = "(" :: tail ∧ inner tail = .ok (value, ")" :: rest)) ∨
      ∃ token, tokens = token :: rest ∧ Word token ∧
        evalPredicate token requester = .ok value := by
  cases tokens with
  | nil => cases ended
  | cons token tail =>
      by_cases opens : token = "("
      · rw [enclosed, if_pos opens] at ended
        rcases parsed : inner tail with failure | ⟨answer, _ | ⟨close, others⟩⟩
        · rw [parsed] at ended
          cases ended
        · rw [parsed] at ended
          cases ended
        · rw [parsed] at ended
          dsimp only at ended
          split at ended
          · next closes =>
              cases ended
              exact .inl ⟨tail, by rw [opens], by rw [parsed, closes]⟩
          · cases ended
      · by_cases closes : token = ")"
        · rw [enclosed, if_neg opens, if_pos closes] at ended
          cases ended
        · by_cases operator : upper token = "AND" ∨ upper token = "OR" ∨ upper token = "NOT"
          · rw [enclosed, if_neg opens, if_neg closes, if_pos operator] at ended
            cases ended
          · rw [enclosed_word ⟨opens, closes, operator⟩] at ended
            cases read : evalPredicate token requester with
            | error failure =>
                rw [read] at ended
                cases ended
            | ok answer =>
                rw [read] at ended
                cases ended
                exact .inr ⟨token, rfl, ⟨opens, closes, operator⟩, read⟩

theorem consumes_enclosed {inner : Parser} (regular : Regular inner)
    (requester : RequesterContext) (tokens : List String) (value : Bool) (rest : List String)
    (ended : enclosed inner requester tokens = .ok (value, rest)) :
    ∃ taken, tokens = taken ++ rest ∧ parentheses.Balanced taken ∧ taken ≠ [] := by
  rcases enclosed_cases ended with ⟨tail, rfl, parsed⟩ | ⟨token, rfl, word, _⟩
  · rcases regular.consumes tail value _ parsed with ⟨taken, rfl, balanced, _⟩
    exact ⟨"(" :: taken ++ [")"], by simp, balanced.enclose, List.cons_ne_nil _ _⟩
  · exact ⟨[token], rfl, Brackets.balanced_singleton word.1 word.2.1, List.cons_ne_nil _ _⟩

theorem regular_enclosed {inner : Parser} (regular : Regular inner)
    (requester : RequesterContext) : Regular (enclosed inner requester) where
  consumes := consumes_enclosed regular requester
  moves := by
    intro taken left value rest other ends otherEnds ended
    cases taken with
    | nil =>
        rcases consumes_enclosed regular requester _ _ _ ended with ⟨_, whole, _, some⟩
        exact (not_kept some whole).elim
    | cons token taken =>
        rcases enclosed_cases ended with ⟨tail, same, parsed⟩ | ⟨read, same, word, answer⟩
        · rcases List.cons.inj same with ⟨rfl, rfl⟩
          exact enclosed_opening
            (regular.moves taken (")" :: left) value rest other ends otherEnds parsed)
        · rcases List.cons.inj same with ⟨rfl, whole⟩
          rw [List.append_cancel_right whole, List.cons_append, enclosed_word word, answer]
          rfl

theorem parseOr_succ (requester : RequesterContext) (frames : Nat) :
    parseOr requester (frames + 1) = joined "OR" or (parseAnd requester frames) := rfl

theorem parseAnd_succ (requester : RequesterContext) (frames : Nat) :
    parseAnd requester (frames + 1) = joined "AND" and (parseNot requester frames) := rfl

theorem parseNot_succ (requester : RequesterContext) (frames : Nat) :
    parseNot requester (frames + 1) =
      negated (parseNot requester frames) (parseAtom requester frames) := rfl

theorem parseAtom_succ (requester : RequesterContext) (frames : Nat) :
    parseAtom requester (frames + 1) = enclosed (parseOr requester frames) requester := rfl

/-- A property of parsers that each rule of the grammar keeps holds of every function of
the parser. -/
theorem parsers_induction {motive : Parser → Prop} (requester : RequesterContext)
    (exhausted : motive fun _ => .error .recursion)
    (join : ∀ operator combine operand, operator ∈ ["AND", "OR"] → motive operand →
      motive (joined operator combine operand))
    (negation : ∀ inner atom, motive inner → motive atom → motive (negated inner atom))
    (atom : ∀ inner, motive inner → motive (enclosed inner requester)) (frames : Nat) :
    motive (parseOr requester frames) ∧ motive (parseAnd requester frames) ∧
      motive (parseNot requester frames) ∧ motive (parseAtom requester frames) := by
  induction frames with
  | zero => exact ⟨exhausted, exhausted, exhausted, exhausted⟩
  | succ frames induction =>
      rcases induction with ⟨orKept, andKept, notKept, atomKept⟩
      exact ⟨join "OR" or _ (by decide) andKept, join "AND" and _ (by decide) notKept,
        negation _ _ notKept atomKept, atom _ orKept⟩

theorem regular_parseOr (requester : RequesterContext) (frames : Nat) :
    Regular (parseOr requester frames) :=
  (parsers_induction requester (regular_failing .recursion)
    (fun _ _ _ known regular => regular_joined known regular)
    (fun _ _ inner atom => regular_negated inner atom)
    (fun _ regular => regular_enclosed regular requester) frames).1

/-! ## More of the stack -/

def Extends (parser other : Parser) : Prop :=
  ∀ tokens result, parser tokens = .ok result → other tokens = .ok result

omit [NumberText] in
theorem Extends.joinRest {operand other : Parser} (extended : Extends operand other)
    {operator : String} {join : Bool → Bool → Bool} {turns : Nat} {value : Bool}
    {tokens : List String} {result : Bool × List String}
    (ended : joinRest operator join operand turns value tokens = .ok result) :
    joinRest operator join other turns value tokens = .ok result := by
  induction turns generalizing value tokens with
  | zero => exact ended
  | succ turns induction =>
      rcases joinRest_turn ended with
        ⟨rfl, stops⟩ | ⟨token, others, next, middle, rfl, written, parsed, later⟩
      · cases tokens with
        | nil => exact joinRest_nil _ _
        | cons token others => exact joinRest_other (stops token rfl) _ _ _
      · rw [joinRest_operator written, extended others _ parsed]
        exact induction later

omit [NumberText] in
theorem Extends.joined {operand other : Parser} (extended : Extends operand other)
    (operator : String) (join : Bool → Bool → Bool) :
    Extends (joined operator join operand) (joined operator join other) := by
  intro tokens result ended
  rw [Audience.joined] at ended ⊢
  cases parsed : operand tokens with
  | error failure =>
      rw [parsed] at ended
      cases ended
  | ok first =>
      rw [parsed] at ended
      rw [extended tokens first parsed]
      exact extended.joinRest ended

omit [NumberText] in
theorem Extends.negated {inner otherInner atom otherAtom : Parser}
    (innerExtended : Extends inner otherInner) (atomExtended : Extends atom otherAtom) :
    Extends (negated inner atom) (negated otherInner otherAtom) := by
  intro tokens result ended
  cases tokens with
  | nil => exact atomExtended [] result ended
  | cons token rest =>
      rw [negated_cons] at ended ⊢
      split at ended
      · next written =>
          rw [if_pos written]
          cases parsed : inner rest with
          | error failure =>
              rw [parsed] at ended
              cases ended
          | ok first =>
              rw [parsed] at ended
              rw [innerExtended rest first parsed]
              exact ended
      · next notWritten =>
          rw [if_neg notWritten]
          exact atomExtended _ result ended

theorem Extends.enclosed {inner other : Parser} (extended : Extends inner other)
    (requester : RequesterContext) :
    Extends (enclosed inner requester) (enclosed other requester) := by
  rintro tokens ⟨value, rest⟩ ended
  rcases enclosed_cases ended with ⟨tail, rfl, parsed⟩ | ⟨token, rfl, word, answer⟩
  · exact enclosed_opening (extended tail _ parsed)
  · rw [enclosed_word word, answer]
    rfl

theorem extends_succ (requester : RequesterContext) (frames : Nat) :
    Extends (parseOr requester frames) (parseOr requester (frames + 1)) ∧
      Extends (parseAnd requester frames) (parseAnd requester (frames + 1)) ∧
      Extends (parseNot requester frames) (parseNot requester (frames + 1)) ∧
      Extends (parseAtom requester frames) (parseAtom requester (frames + 1)) := by
  induction frames with
  | zero => exact ⟨nofun, nofun, nofun, nofun⟩
  | succ frames induction =>
      rcases induction with ⟨orKept, andKept, notKept, atomKept⟩
      exact ⟨andKept.joined "OR" or, notKept.joined "AND" and, notKept.negated atomKept,
        orKept.enclosed requester⟩

theorem extends_add (requester : RequesterContext) (frames more : Nat) :
    Extends (parseOr requester frames) (parseOr requester (frames + more)) := by
  induction more with
  | zero => exact fun _ _ ended => ended
  | succ more induction =>
      intro tokens result ended
      exact (extends_succ requester (frames + more)).1 tokens result
        (induction tokens result ended)

end Laws

end Audience

end Agtp
