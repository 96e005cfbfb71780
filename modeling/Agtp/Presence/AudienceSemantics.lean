import Agtp.Presence.AudienceGrammar
import Agtp.Presence.Narrowing

/-! # Audience expressions are read as documented

The parser answers what the grammar and the meaning of its trees say, for every text whose
nesting the stack has room for, and raises for every other. -/

namespace Agtp

namespace Audience

/-! ## Tokens -/

theorem not_isSpace_of_solid {letter : Char} (solid : ¬Delimits letter) :
    ¬Text.isSpace letter = true := fun space => solid (.inl space)

theorem tokenizeFrom_letters {letters : List Char} (solid : ∀ letter ∈ letters, ¬Delimits letter)
    (reversed rest : List Char) :
    tokenizeFrom reversed (letters ++ rest) =
      tokenizeFrom (letters.reverse ++ reversed) rest := by
  induction letters generalizing reversed with
  | nil => rfl
  | cons letter letters induction =>
      have first := solid letter List.mem_cons_self
      rw [List.cons_append, tokenizeFrom, if_neg (not_isSpace_of_solid first),
        if_neg fun parenthesis => first (.inr parenthesis),
        induction fun other member => solid other (List.mem_cons_of_mem _ member)]
      simp

theorem word_reverse {letters : List Char} (some : letters ≠ []) :
    word letters.reverse = [String.ofList letters] := by
  rw [word, if_neg fun empty => some (List.reverse_eq_nil_iff.mp empty), List.reverse_reverse]

theorem tokenizeFrom_ended {rest : List Char} (reversed : List Char)
    (ended : ∀ character ∈ rest.head?, Delimits character) :
    tokenizeFrom reversed rest = word reversed ++ tokenizeFrom [] rest := by
  cases rest with
  | nil => exact (List.append_nil (word reversed)).symm
  | cons character rest =>
      rcases ended character rfl with space | parenthesis
      · rw [tokenizeFrom_space space, tokenizeFrom_space space]
        rfl
      · rw [tokenizeFrom_parenthesis parenthesis, tokenizeFrom_parenthesis parenthesis]
        rfl

theorem tokenizeFrom_of_lexes {characters : List Char} {tokens : List String}
    (lexed : Lexes characters tokens) : tokenizeFrom [] characters = tokens := by
  induction lexed with
  | nil => rfl
  | space space _ induction => rw [tokenizeFrom_space space, induction]; rfl
  | parenthesis parenthesis _ induction =>
      rw [tokenizeFrom_parenthesis parenthesis, induction]
      rfl
  | word some solid ended _ induction =>
      rw [tokenizeFrom_letters solid, List.append_nil, tokenizeFrom_ended _ ended,
        word_reverse some, induction]
      rfl

theorem lexes_tokenizeFrom (characters letters : List Char)
    (solid : ∀ letter ∈ letters, ¬Delimits letter) :
    Lexes (letters ++ characters) (tokenizeFrom letters.reverse characters) := by
  induction characters generalizing letters with
  | nil =>
      cases letters with
      | nil => exact .nil
      | cons letter letters =>
          rw [tokenizeFrom, word_reverse (List.cons_ne_nil letter letters)]
          exact .word (List.cons_ne_nil letter letters) solid
            (fun first none => by cases none) .nil
  | cons character rest induction =>
      by_cases delimits : Delimits character
      · have ends : ∀ first ∈ (character :: rest).head?, Delimits first := by
          intro first same
          rwa [← Option.some.inj same]
        rw [tokenizeFrom_ended _ ends]
        have later : Lexes (character :: rest) (tokenizeFrom [] (character :: rest)) := by
          have following : Lexes ([] ++ rest) (tokenizeFrom [] rest) := induction [] (by simp)
          rcases delimits with space | parenthesis
          · rw [tokenizeFrom_space space]
            exact .space space following
          · rw [tokenizeFrom_parenthesis parenthesis]
            exact .parenthesis parenthesis following
        cases letters with
        | nil => exact later
        | cons letter letters =>
            rw [word_reverse (List.cons_ne_nil letter letters)]
            exact .word (List.cons_ne_nil letter letters) solid ends later
      · have grown := induction (letters ++ [character]) fun letter member => by
          rcases List.mem_append.mp member with old | new
          · exact solid letter old
          · exact List.mem_singleton.mp new ▸ delimits
        rw [tokenizeFrom, if_neg (not_isSpace_of_solid delimits),
          if_neg fun parenthesis => delimits (.inr parenthesis)]
        rwa [List.append_assoc, List.reverse_append] at grown

theorem lexes_iff (scope : String) (tokens : List String) :
    Lexes scope.toList tokens ↔ tokens = tokenize scope := by
  constructor
  · intro lexed
    exact (tokenizeFrom_of_lexes lexed).symm
  · intro same
    rw [same]
    exact lexes_tokenizeFrom scope.toList [] (by simp)

section Reading

variable [TextCase] [NumberText]

theorem written_iff (scope : String) (tree : Expression) :
    Written scope tree ↔ Derives .orExpr (tokenize scope) tree := by
  constructor
  · intro ⟨tokens, lexed, derived⟩
    rwa [← (lexes_iff scope tokens).mp lexed]
  · intro derived
    exact ⟨tokenize scope, (lexes_iff scope _).mpr rfl, derived⟩

/-! ## Predicates -/

omit [TextCase] [NumberText] in
theorem attributeIs_eq (held : Option String) (value : String) :
    attributeIs held value = decide (value ≠ "" ∧ held = some value) := by
  cases held with
  | none => simp [attributeIs]
  | some text =>
      rw [attributeIs, Bool.eq_iff_iff]
      simp only [Bool.and_eq_true, decide_eq_true_eq, Option.some.injEq]
      constructor
      · intro ⟨filled, same⟩
        exact ⟨same ▸ filled, same⟩
      · intro ⟨filled, same⟩
        exact ⟨same ▸ filled, same⟩

omit [TextCase] [NumberText] in
theorem tier_eq (requester : RequesterContext) (threshold : Int) :
    (match requester.tier with
      | some tier => decide (tier ≤ threshold)
      | none => false) = decide ((Predicate.tier threshold).Holds requester) := by
  cases held : requester.tier <;> simp [Predicate.Holds, held]

omit [TextCase] [NumberText] in
theorem capability_eq (requester : RequesterContext) (name : String) :
    requester.capabilities.contains name =
      decide ((Predicate.capability name).Holds requester) := by
  rw [Bool.eq_iff_iff, List.contains_iff_mem, decide_eq_true_eq]
  rfl

theorem evalPredicate_eq {token : String} (word : Word token) (requester : RequesterContext) :
    evalPredicate token requester =
      match readPredicate token with
      | some predicate => .ok (decide (predicate.Holds requester))
      | none => .error .malformed := by
  rw [evalPredicate, readPredicate, if_neg word.2.2]
  cases Wire.partitionColon token.toList with
  | none => rfl
  | some parts =>
      simp only [Option.bind_some, predicateOf, attributeIs_eq, capability_eq,
        Option.some.injEq]
      split_ifs
      · cases NumberText.intOfText (Text.strip (String.ofList parts.2)) with
        | none => rfl
        | some threshold =>
            exact congrArg Except.ok (tier_eq requester threshold)
      all_goals rfl

theorem word_of_readPredicate {token : String} {predicate : Predicate}
    (read : readPredicate token = some predicate) : Word token := by
  rw [readPredicate] at read
  split at read
  · cases read
  · next plain =>
      refine ⟨?_, ?_, plain⟩
      · intro opening
        rw [opening] at read
        cases read
      · intro closing
        rw [closing] at read
        cases read

/-! ## What the parser accepts -/

def StopsAt (operator : String) (tokens : List String) : Prop :=
  ∀ token ∈ tokens.head?, upper token ≠ operator

omit [NumberText] in
theorem stopsAt_other {token operator other : String} (written : upper token = other)
    (different : other ≠ operator) (tokens : List String) :
    StopsAt operator (token :: tokens) := by
  intro head first
  rwa [← Option.some.inj first, written]

omit [NumberText] in
theorem ends_of_stops {tokens : List String} (notAnd : StopsAt "AND" tokens)
    (notOr : StopsAt "OR" tokens) : Ends tokens := by
  intro token rest same
  rw [same] at notAnd notOr
  exact ⟨notAnd token rfl, notOr token rfl⟩

def Sound (requester : RequesterContext) (rule : Rule) (parser : Parser) : Prop :=
  ∀ tokens value rest, parser tokens = .ok (value, rest) →
    ∃ taken tree, tokens = taken ++ rest ∧ Derives rule taken tree ∧
      tree.value requester = value

structure Joins (requester : RequesterContext) (rule operands : Rule) (operator : String)
    (join : Bool → Bool → Bool) (node : Expression → Expression → Expression) : Prop where
  one : ∀ {tokens tree}, Derives operands tokens tree → Derives rule tokens tree
  more : ∀ {left right token first second}, Derives rule left first →
    upper token = operator → Derives operands right second →
      Derives rule (left ++ token :: right) (node first second)
  value : ∀ first second, (node first second).value requester =
    join (first.value requester) (second.value requester)

theorem joins_or (requester : RequesterContext) :
    Joins requester .orExpr .andExpr "OR" or .disjunction where
  one := .oneConjunction
  more := .disjunction
  value := fun _ _ => rfl

theorem joins_and (requester : RequesterContext) :
    Joins requester .andExpr .notExpr "AND" and .conjunction where
  one := .oneNegation
  more := .conjunction
  value := fun _ _ => rfl

section Joining

variable {requester : RequesterContext} {rule operands : Rule} {operator : String}
  {join : Bool → Bool → Bool} {node : Expression → Expression → Expression} {operand : Parser}

theorem sound_joinRest (joins : Joins requester rule operands operator join node)
    (sound : Sound requester operands operand) {turns : Nat} {left tokens rest : List String}
    {first : Expression} {value : Bool} (derived : Derives rule left first)
    (ended : joinRest operator join operand turns (first.value requester) tokens =
      .ok (value, rest)) :
    ∃ taken tree, left ++ tokens = taken ++ rest ∧ Derives rule taken tree ∧
      tree.value requester = value := by
  induction turns generalizing left tokens first with
  | zero =>
      cases ended
      exact ⟨left, first, rfl, derived, rfl⟩
  | succ turns induction =>
      rcases joinRest_turn ended with
        ⟨same, _⟩ | ⟨token, others, next, middle, rfl, written, parsed, later⟩
      · cases same
        exact ⟨left, first, rfl, derived, rfl⟩
      · rcases sound others next middle parsed with ⟨right, second, rfl, other, rfl⟩
        rw [← joins.value first second] at later
        have whole := induction (joins.more derived written other) later
        rwa [List.append_assoc, List.cons_append] at whole

theorem sound_joined (joins : Joins requester rule operands operator join node)
    (sound : Sound requester operands operand) :
    Sound requester rule (joined operator join operand) := by
  intro tokens value rest ended
  rw [joined] at ended
  cases parsed : operand tokens with
  | error failure =>
      rw [parsed] at ended
      cases ended
  | ok result =>
      rcases result with ⟨first, middle⟩
      rw [parsed] at ended
      rcases sound tokens first middle parsed with ⟨left, tree, rfl, derived, rfl⟩
      exact sound_joinRest joins sound (joins.one derived) ended

end Joining

theorem sound_negated {requester : RequesterContext} {negation atom : Parser}
    (negationSound : Sound requester .notExpr negation)
    (atomSound : Sound requester .atom atom) :
    Sound requester .notExpr (negated negation atom) := by
  intro tokens value rest ended
  cases tokens with
  | nil =>
      rcases atomSound [] value rest ended with ⟨taken, tree, same, derived, holds⟩
      exact ⟨taken, tree, same, .oneAtom derived, holds⟩
  | cons token others =>
      rw [negated_cons] at ended
      split at ended
      · next written =>
          cases parsed : negation others with
          | error failure =>
              rw [parsed] at ended
              cases ended
          | ok result =>
              rcases result with ⟨inner, middle⟩
              rw [parsed] at ended
              cases ended
              rcases negationSound others inner _ parsed with ⟨taken, tree, rfl, derived, rfl⟩
              exact ⟨token :: taken, .negation tree, rfl, .negation written derived, rfl⟩
      · rcases atomSound _ value rest ended with ⟨taken, tree, same, derived, holds⟩
        exact ⟨taken, tree, same, .oneAtom derived, holds⟩

theorem sound_enclosed {requester : RequesterContext} {inner : Parser}
    (sound : Sound requester .orExpr inner) :
    Sound requester .atom (enclosed inner requester) := by
  intro tokens value rest ended
  rcases enclosed_cases ended with ⟨tail, rfl, parsed⟩ | ⟨token, rfl, word, answer⟩
  · rcases sound tail value _ parsed with ⟨taken, tree, rfl, derived, holds⟩
    exact ⟨"(" :: taken ++ [")"], tree, by simp, .group derived, holds⟩
  · rw [evalPredicate_eq word] at answer
    cases read : readPredicate token with
    | none =>
        rw [read] at answer
        cases answer
    | some predicate =>
        rw [read] at answer
        cases answer
        exact ⟨[token], .predicate predicate, rfl, .predicate read, rfl⟩

theorem sound_parsers (requester : RequesterContext) (frames : Nat) :
    Sound requester .orExpr (parseOr requester frames) ∧
      Sound requester .andExpr (parseAnd requester frames) ∧
      Sound requester .notExpr (parseNot requester frames) ∧
      Sound requester .atom (parseAtom requester frames) := by
  induction frames with
  | zero => exact ⟨nofun, nofun, nofun, nofun⟩
  | succ frames induction =>
      rcases induction with ⟨orSound, andSound, notSound, atomSound⟩
      exact ⟨sound_joined (joins_or requester) andSound,
        sound_joined (joins_and requester) notSound, sound_negated notSound atomSound,
        sound_enclosed orSound⟩

/-! ## What the parser does not refuse -/

def Answers (result : Except Failure (Bool × List String)) (value : Bool)
    (rest : List String) : Prop :=
  result = .error .recursion ∨ result = .ok (value, rest)

def Resumes (operator : String) (join : Bool → Bool → Bool) (operand : Parser)
    (result : Except Failure (Bool × List String)) (value : Bool) (rest : List String) : Prop :=
  result = .error .recursion ∨
    ∃ turns, rest.length ≤ turns ∧ result = joinRest operator join operand turns value rest

section Joining

variable {operator : String} {join : Bool → Bool → Bool} {operand : Parser}

omit [NumberText] in
theorem joinRest_of_stopsAt {rest : List String} (stops : StopsAt operator rest) (turns : Nat)
    (value : Bool) : joinRest operator join operand turns value rest = .ok (value, rest) := by
  cases rest with
  | nil => exact joinRest_nil turns value
  | cons token others => exact joinRest_other (stops token rfl) turns value others

omit [NumberText] in
theorem Resumes.answers {result : Except Failure (Bool × List String)} {value : Bool}
    {rest : List String} (resumes : Resumes operator join operand result value rest)
    (stops : StopsAt operator rest) : Answers result value rest := by
  rcases resumes with ended | ⟨turns, _, same⟩
  · exact .inl ended
  · exact .inr (same.trans (joinRest_of_stopsAt stops turns value))

omit [NumberText] in
theorem resumes_joined {tokens rest : List String} {value : Bool}
    (answers : Answers (operand tokens) value rest) :
    Resumes operator join operand (joined operator join operand tokens) value rest := by
  rcases answers with ended | parsed
  · apply Or.inl
    rw [joined, ended]
  · apply Or.inr
    exact ⟨rest.length, le_rfl, by rw [joined, parsed]⟩

omit [NumberText] in
theorem Resumes.more {result : Except Failure (Bool × List String)} {first second : Bool}
    {token : String} {tokens rest : List String}
    (resumes : Resumes operator join operand result first (token :: tokens))
    (written : upper token = operator) (shorter : rest.length ≤ tokens.length)
    (answers : Answers (operand tokens) second rest) :
    Resumes operator join operand result (join first second) rest := by
  rcases resumes with ended | ⟨turns, enough, same⟩
  · exact .inl ended
  · cases turns with
    | zero => cases enough
    | succ turns =>
        rw [joinRest_operator written] at same
        rcases answers with ended | parsed
        · rw [ended] at same
          exact .inl same
        · rw [parsed] at same
          exact .inr ⟨turns, shorter.trans (Nat.le_of_succ_le_succ enough), same⟩

end Joining

def Accepts (requester : RequesterContext) (taken : List String) (value : Bool) : Rule → Prop
  | .orExpr => ∀ frames rest, StopsAt "AND" rest →
      Resumes "OR" or (parseAnd requester frames)
        (parseOr requester (frames + 1) (taken ++ rest)) value rest
  | .andExpr => ∀ frames rest,
      Resumes "AND" and (parseNot requester frames)
        (parseAnd requester (frames + 1) (taken ++ rest)) value rest
  | .notExpr => ∀ frames rest, Answers (parseNot requester frames (taken ++ rest)) value rest
  | .atom => ∀ frames rest, Answers (parseAtom requester frames (taken ++ rest)) value rest

theorem answers_parseAnd {requester : RequesterContext} {taken : List String} {value : Bool}
    (accepts : Accepts requester taken value .andExpr) (frames : Nat) {rest : List String}
    (stops : StopsAt "AND" rest) :
    Answers (parseAnd requester frames (taken ++ rest)) value rest := by
  cases frames with
  | zero => exact .inl rfl
  | succ frames => exact (accepts frames rest).answers stops

theorem answers_parseOr {requester : RequesterContext} {taken : List String} {value : Bool}
    (accepts : Accepts requester taken value .orExpr) (frames : Nat) {rest : List String}
    (ends : Ends rest) : Answers (parseOr requester frames (taken ++ rest)) value rest := by
  have notAnd : StopsAt "AND" rest := by
    intro token first
    cases rest with
    | nil => cases first
    | cons head tail => exact Option.some.inj first ▸ (ends head tail rfl).1
  have notOr : StopsAt "OR" rest := by
    intro token first
    cases rest with
    | nil => cases first
    | cons head tail => exact Option.some.inj first ▸ (ends head tail rfl).2
  cases frames with
  | zero => exact .inl rfl
  | succ frames => exact (accepts frames rest notAnd).answers notOr

omit [NumberText] in
theorem negated_operator {negation atom : Parser} {token : String}
    (written : upper token = "NOT") {rest others : List String} {value : Bool}
    (answers : Answers (negation rest) value others) :
    Answers (negated negation atom (token :: rest)) (!value) others := by
  rw [negated_cons, if_pos written]
  rcases answers with ended | parsed
  · exact .inl (by rw [ended]; rfl)
  · exact .inr (by rw [parsed]; rfl)

theorem derives_atom_cases {taken : List String} {tree : Expression}
    (derived : Derives .atom taken tree) :
    ∃ token tail, taken = token :: tail ∧ upper token ≠ "NOT" := by
  cases derived with
  | group inner => exact ⟨"(", _, rfl, by rw [upper_opening]; decide⟩
  | predicate read =>
      have word := word_of_readPredicate read
      exact ⟨_, [], rfl, fun operator => word.2.2 (.inr (.inr operator))⟩

theorem answers_enclosed {inner : Parser} {requester : RequesterContext}
    {tokens rest : List String} {value : Bool}
    (answers : Answers (inner tokens) value (")" :: rest)) :
    Answers (enclosed inner requester ("(" :: tokens)) value rest := by
  rcases answers with ended | parsed
  · apply Or.inl
    rw [enclosed, if_pos rfl, ended]
  · exact .inr (enclosed_opening parsed)

theorem accepts_of_derives (requester : RequesterContext) {rule : Rule} {taken : List String}
    {tree : Expression} (derived : Derives rule taken tree) :
    Accepts requester taken (tree.value requester) rule := by
  induction derived with
  | oneConjunction _ induction =>
      intro frames rest stops
      exact resumes_joined (answers_parseAnd induction frames stops)
  | disjunction _ written _ leftInduction rightInduction =>
      intro frames rest stops
      rw [List.append_assoc, List.cons_append]
      exact (leftInduction frames _ (stopsAt_other written (by decide) _)).more written
        (by rw [List.length_append]; exact Nat.le_add_left _ _)
        (answers_parseAnd rightInduction frames stops)
  | oneNegation _ induction =>
      intro frames rest
      exact resumes_joined (induction frames rest)
  | conjunction _ written _ leftInduction rightInduction =>
      intro frames rest
      rw [List.append_assoc, List.cons_append]
      exact (leftInduction frames _).more written
        (by rw [List.length_append]; exact Nat.le_add_left _ _)
        (rightInduction frames rest)
  | negation written _ induction =>
      intro frames rest
      cases frames with
      | zero => exact .inl rfl
      | succ frames => exact negated_operator written (induction frames rest)
  | oneAtom derived induction =>
      intro frames rest
      rcases derives_atom_cases derived with ⟨token, tail, rfl, plain⟩
      cases frames with
      | zero => exact .inl rfl
      | succ frames =>
          rw [parseNot_succ, List.cons_append, negated_cons, if_neg plain]
          exact induction frames rest
  | group _ induction =>
      intro frames rest
      cases frames with
      | zero => exact .inl rfl
      | succ frames =>
          rw [List.append_assoc, List.cons_append]
          exact answers_enclosed (answers_parseOr induction frames (ends_closing rest))
  | predicate read =>
      intro frames rest
      cases frames with
      | zero => exact .inl rfl
      | succ frames =>
          have word := word_of_readPredicate read
          apply Or.inr
          rw [parseAtom_succ, List.cons_append, enclosed_word word, evalPredicate_eq word, read]
          rfl

theorem parseOr_of_derives (requester : RequesterContext) {tokens : List String}
    {tree : Expression} (derived : Derives .orExpr tokens tree) (frames : Nat) :
    Answers (parseOr requester frames tokens) (tree.value requester) [] := by
  have answers := answers_parseOr (accepts_of_derives requester derived) frames ends_nil
  rwa [List.append_nil] at answers

/-! ## How deep the calls go -/

theorem le_depthFrom (outer : List Nat) (depth negations : Nat) (tokens : List String) :
    depth + negations + 4 ≤ depthFrom outer depth (some negations) tokens := by
  induction tokens generalizing negations with
  | nil => exact le_rfl
  | cons token rest induction =>
      rw [depthFrom]
      split
      · exact Nat.le_of_succ_le (induction (negations + 1))
      · split
        · exact Nat.le_max_left _ _
        · split
          · exact Nat.le_max_left _ _
          · exact le_rfl

/-- The stack ends exactly where the calls go deeper than `limit`, and otherwise just where
what is left makes them go deeper. -/
def Agrees (limit depth : Nat) (after : List String → Nat) :
    Except Failure (Bool × List String) → Prop
  | .ok (_, rest) => depth ≤ limit ↔ after rest ≤ limit
  | .error .malformed => depth ≤ limit
  | .error .recursion => limit < depth

omit [TextCase] [NumberText] in
theorem Agrees.of_iff {limit first second : Nat} {after : List String → Nat}
    {result : Except Failure (Bool × List String)} (agrees : Agrees limit second after result)
    (same : first ≤ limit ↔ second ≤ limit) : Agrees limit first after result := by
  rcases result with failure | ⟨value, rest⟩
  · cases failure with
    | malformed => exact same.mpr agrees
    | recursion => exact Nat.lt_of_not_le fun fits => Nat.not_le_of_lt agrees (same.mp fits)
  · exact same.trans agrees

def Descends (limit depth negations : Nat) (parser : Parser) : Prop :=
  ∀ outer tokens, Agrees limit (depthFrom outer depth (some negations) tokens)
    (depthFrom outer depth none) (parser tokens)

def AtomDescends (limit depth negations : Nat) (parser : Parser) : Prop :=
  ∀ outer tokens, StopsAt "NOT" tokens →
    Agrees limit (depthFrom outer depth (some negations) tokens)
      (depthFrom outer depth none) (parser tokens)

theorem descends_exhausted {limit depth negations : Nat}
    (shallow : limit < depth + negations + 4) :
    Descends limit depth negations fun _ => .error .recursion :=
  fun outer tokens => shallow.trans_le (le_depthFrom outer depth negations tokens)

theorem depthFrom_none (outer : List Nat) (depth : Nat) (token : String) (rest : List String) :
    depthFrom outer depth none (token :: rest) =
      if upper token = "AND" ∨ upper token = "OR" then depthFrom outer depth (some 0) rest
      else if token = ")" then
        match outer with
        | [] => 0
        | enclosing :: outer => depthFrom outer enclosing none rest
      else 0 := by
  cases outer <;> rfl

theorem depthFrom_operator {token operator : String} (written : upper token = operator)
    (known : operator ∈ ["AND", "OR"]) (outer : List Nat) (depth : Nat) (rest : List String) :
    depthFrom outer depth none (token :: rest) = depthFrom outer depth (some 0) rest := by
  rw [depthFrom_none, written]
  apply if_pos
  rcases List.mem_cons.mp known with same | last
  · exact .inl same
  · exact .inr (List.mem_singleton.mp last)

theorem agrees_joinRest {limit depth : Nat} {operator : String} {join : Bool → Bool → Bool}
    {operand : Parser} (known : operator ∈ ["AND", "OR"])
    (descends : Descends limit depth 0 operand) (outer : List Nat) (turns : Nat) (value : Bool)
    (tokens : List String) :
    Agrees limit (depthFrom outer depth none tokens) (depthFrom outer depth none)
      (joinRest operator join operand turns value tokens) := by
  induction turns generalizing value tokens with
  | zero => exact Iff.rfl
  | succ turns induction =>
      cases tokens with
      | nil => exact Iff.rfl
      | cons token rest =>
          by_cases written : upper token = operator
          · rw [joinRest_operator written, depthFrom_operator written known]
            have reached := descends outer rest
            cases parsed : operand rest with
            | error failure =>
                rw [parsed] at reached
                exact reached
            | ok result =>
                rw [parsed] at reached
                exact (induction (join value result.1) result.2).of_iff reached
          · rw [joinRest_other written]
            exact Iff.rfl

theorem descends_joined {limit depth : Nat} {operator : String} {join : Bool → Bool → Bool}
    {operand : Parser} (known : operator ∈ ["AND", "OR"])
    (descends : Descends limit depth 0 operand) :
    Descends limit depth 0 (joined operator join operand) := by
  intro outer tokens
  have reached := descends outer tokens
  rw [joined]
  cases parsed : operand tokens with
  | error failure =>
      rw [parsed] at reached
      exact reached
  | ok result =>
      rw [parsed] at reached
      exact (agrees_joinRest known descends outer _ result.1 result.2).of_iff reached

theorem depthFrom_not {token : String} (written : upper token = "NOT") (outer : List Nat)
    (depth negations : Nat) (rest : List String) :
    depthFrom outer depth (some negations) (token :: rest) =
      depthFrom outer depth (some (negations + 1)) rest := by
  rw [depthFrom, if_pos written]

theorem descends_negated {limit depth negations : Nat} {negation atom : Parser}
    (negationDescends : Descends limit depth (negations + 1) negation)
    (atomDescends : AtomDescends limit depth negations atom) :
    Descends limit depth negations (negated negation atom) := by
  intro outer tokens
  cases tokens with
  | nil => exact atomDescends outer [] nofun
  | cons token rest =>
      rw [negated_cons]
      split
      · next written =>
          have reached := negationDescends outer rest
          rw [depthFrom_not written]
          rcases parsed : negation rest with failure | ⟨value, others⟩
          · rw [parsed] at reached
            exact reached
          · rw [parsed] at reached
            exact reached
      · next other =>
          exact atomDescends outer (token :: rest) fun head first =>
            Option.some.inj first ▸ other

theorem depthFrom_operand {token : String} (other : upper token ≠ "NOT") (outer : List Nat)
    (depth negations : Nat) (rest : List String) :
    depthFrom outer depth (some negations) (token :: rest) =
      if token = "(" then
        max (depth + negations + 4)
          (depthFrom (depth :: outer) (depth + negations + 4) (some 0) rest)
      else if (readPredicate token).isSome then
        max (depth + negations + 4) (depthFrom outer depth none rest)
      else depth + negations + 4 := by
  rw [depthFrom, if_neg other]

theorem depthFrom_closing (enclosing : Nat) (outer : List Nat) (depth : Nat)
    (rest : List String) :
    depthFrom (enclosing :: outer) depth none (")" :: rest) =
      depthFrom outer enclosing none rest := by
  have plain : ¬(upper ")" = "AND" ∨ upper ")" = "OR") := by
    rw [upper_closing]
    decide
  rw [depthFrom_none, if_neg plain, if_pos rfl]

theorem depthFrom_unclosed {tokens : List String} (ends : Ends tokens)
    (unclosed : ∀ rest, tokens ≠ ")" :: rest) (outer : List Nat) (depth : Nat) :
    depthFrom outer depth none tokens = 0 := by
  cases tokens with
  | nil => rfl
  | cons token rest =>
      rcases ends token rest rfl with ⟨notAnd, notOr⟩
      have open' : token ≠ ")" := fun closes => unclosed rest (by rw [closes])
      rw [depthFrom_none, if_neg fun operator => operator.elim notAnd notOr, if_neg open']

theorem enclosed_refuses {inner : Parser} {requester : RequesterContext} {token : String}
    (unopened : token ≠ "(") (unread : readPredicate token = none) (rest : List String) :
    enclosed inner requester (token :: rest) = .error .malformed := by
  by_cases closes : token = ")"
  · rw [enclosed, if_neg unopened, if_pos closes]
  · by_cases operator : upper token = "AND" ∨ upper token = "OR" ∨ upper token = "NOT"
    · rw [enclosed, if_neg unopened, if_neg closes, if_pos operator]
    · have word : Word token := ⟨unopened, closes, operator⟩
      rw [enclosed_word word, evalPredicate_eq word, unread]
      rfl

theorem descends_enclosed {limit depth negations : Nat} {inner : Parser}
    (requester : RequesterContext) (room : depth + negations + 4 ≤ limit)
    (descends : Descends limit (depth + negations + 4) 0 inner)
    (ending : ∀ tokens value rest, inner tokens = .ok (value, rest) → Ends rest) :
    AtomDescends limit depth negations (enclosed inner requester) := by
  intro outer tokens stops
  cases tokens with
  | nil => exact room
  | cons token tail =>
      have other : upper token ≠ "NOT" := stops token rfl
      rw [depthFrom_operand other]
      by_cases opens : token = "("
      · rw [if_pos opens, enclosed, if_pos opens]
        have reached := descends (depth :: outer) tail
        rcases parsed : inner tail with failure | ⟨value, rest⟩
        · rw [parsed] at reached
          cases failure with
          | malformed => exact Nat.max_le.mpr ⟨room, reached⟩
          | recursion => exact reached.trans_le (Nat.le_max_right _ _)
        · rw [parsed] at reached
          have within (fits : depthFrom (depth :: outer) (depth + negations + 4) none rest ≤
              limit) := Nat.max_le.mpr ⟨room, reached.mpr fits⟩
          have ends := ending tail value rest parsed
          cases rest with
          | nil => exact within (Nat.zero_le limit)
          | cons close rest =>
              dsimp only
              split
              · next closes =>
                  rw [closes, Agrees, depthFrom_closing] at reached
                  rw [Agrees, Nat.max_le]
                  exact ⟨fun fits => reached.mp fits.2, fun fits => ⟨room, reached.mpr fits⟩⟩
              · next unclosed =>
                  apply within
                  rw [depthFrom_unclosed ends fun others same =>
                    unclosed (List.cons.inj same).1]
                  exact Nat.zero_le limit
      · rw [if_neg opens]
        cases read : readPredicate token with
        | none =>
            rw [enclosed_refuses opens read]
            exact room
        | some predicate =>
            have word := word_of_readPredicate read
            rw [enclosed_word word, evalPredicate_eq word, read, Option.isSome_some, if_pos rfl]
            change max _ _ ≤ limit ↔ _
            rw [Nat.max_le]
            exact ⟨fun fits => fits.2, fun fits => ⟨room, fits⟩⟩

omit [NumberText] in
theorem stopsAt_joinRest {operator : String} {join : Bool → Bool → Bool} {operand : Parser}
    (following : List String → Prop) (regular : Regular operand)
    (after : ∀ tokens value rest, operand tokens = .ok (value, rest) → following rest)
    {turns : Nat} {first value : Bool} {tokens rest : List String}
    (enough : tokens.length ≤ turns) (start : following tokens)
    (ended : joinRest operator join operand turns first tokens = .ok (value, rest)) :
    following rest ∧ StopsAt operator rest := by
  induction turns generalizing first tokens with
  | zero =>
      rw [List.length_eq_zero_iff.mp (Nat.le_zero.mp enough)] at ended start
      cases ended
      exact ⟨start, nofun⟩
  | succ turns induction =>
      rcases joinRest_turn ended with
        ⟨same, stops⟩ | ⟨token, others, next, middle, rfl, written, parsed, later⟩
      · cases same
        exact ⟨start, stops⟩
      · rcases regular.consumes others next middle parsed with ⟨taken, rfl, _⟩
        rw [List.length_cons, List.length_append] at enough
        exact induction (by omega) (after _ next middle parsed) later

omit [NumberText] in
theorem stopsAt_joined {operator : String} {join : Bool → Bool → Bool} {operand : Parser}
    (following : List String → Prop) (regular : Regular operand)
    (after : ∀ tokens value rest, operand tokens = .ok (value, rest) → following rest)
    {tokens rest : List String} {value : Bool}
    (ended : joined operator join operand tokens = .ok (value, rest)) :
    following rest ∧ StopsAt operator rest := by
  rw [joined] at ended
  cases parsed : operand tokens with
  | error failure =>
      rw [parsed] at ended
      cases ended
  | ok result =>
      rw [parsed] at ended
      exact stopsAt_joinRest following regular after le_rfl (after tokens _ _ parsed) ended

theorem regular_parsers (requester : RequesterContext) (frames : Nat) :
    Regular (parseOr requester frames) ∧ Regular (parseAnd requester frames) ∧
      Regular (parseNot requester frames) ∧ Regular (parseAtom requester frames) :=
  parsers_induction requester (regular_failing .recursion)
    (fun _ _ _ known regular => regular_joined known regular)
    (fun _ _ inner atom => regular_negated inner atom)
    (fun _ regular => regular_enclosed regular requester) frames

theorem ends_of_parseOr {requester : RequesterContext} {frames : Nat}
    {tokens rest : List String} {value : Bool}
    (parsed : parseOr requester frames tokens = .ok (value, rest)) : Ends rest := by
  cases frames with
  | zero => cases parsed
  | succ frames =>
      have after (tokens : List String) (value : Bool) (rest : List String)
          (ended : parseAnd requester frames tokens = .ok (value, rest)) :
          StopsAt "AND" rest := by
        cases frames with
        | zero => cases ended
        | succ frames =>
            exact (stopsAt_joined (fun _ => True) (regular_parsers requester frames).2.2.1
              (fun _ _ _ _ => trivial) ended).2
      rcases stopsAt_joined (StopsAt "AND") (regular_parsers requester frames).2.1 after
        parsed with ⟨notAnd, notOr⟩
      exact ends_of_stops notAnd notOr

theorem descends_parsers (requester : RequesterContext) (frames : Nat) :
    (∀ limit depth, limit = depth + frames →
        Descends limit depth 0 (parseOr requester frames)) ∧
      (∀ limit depth, limit = depth + 1 + frames →
        Descends limit depth 0 (parseAnd requester frames)) ∧
      (∀ limit depth negations, limit = depth + negations + 2 + frames →
        Descends limit depth negations (parseNot requester frames)) ∧
      ∀ limit depth negations, limit = depth + negations + 3 + frames →
        AtomDescends limit depth negations (parseAtom requester frames) := by
  induction frames with
  | zero =>
      refine ⟨?_, ?_, ?_, ?_⟩
      · intro limit depth same
        exact descends_exhausted (by omega)
      · intro limit depth same
        exact descends_exhausted (by omega)
      · intro limit depth negations same
        exact descends_exhausted (by omega)
      · intro limit depth negations same outer tokens _
        exact descends_exhausted (by omega) outer tokens
  | succ frames induction =>
      rcases induction with ⟨orDescends, andDescends, notDescends, atomDescends⟩
      refine ⟨?_, ?_, ?_, ?_⟩
      · intro limit depth same
        exact descends_joined (by decide) (andDescends limit depth (by omega))
      · intro limit depth same
        exact descends_joined (by decide) (notDescends limit depth 0 (by omega))
      · intro limit depth negations same
        exact descends_negated (notDescends limit depth (negations + 1) (by omega))
          (atomDescends limit depth negations (by omega))
      · intro limit depth negations same
        exact descends_enclosed requester (by omega)
          (orDescends limit (depth + negations + 4) (by omega))
          fun _ _ _ parsed => ends_of_parseOr parsed

/-! ## The whole expression -/

theorem depthFrom_outermost {tokens : List String} (ends : Ends tokens) (depth : Nat) :
    depthFrom [] depth none tokens = 0 := by
  cases tokens with
  | nil => rfl
  | cons token rest =>
      rcases ends token rest rfl with ⟨notAnd, notOr⟩
      rw [depthFrom_none, if_neg fun operator => operator.elim notAnd notOr, ite_self]

theorem parseOr_recursion_iff (requester : RequesterContext) (frames : Nat)
    (tokens : List String) :
    parseOr requester frames tokens = .error .recursion ↔
      frames < depthFrom [] 0 (some 0) tokens := by
  have reached := (descends_parsers requester frames).1 frames 0 (Nat.zero_add frames).symm []
    tokens
  rcases parsed : parseOr requester frames tokens with failure | ⟨value, rest⟩
  · rw [parsed] at reached
    cases failure with
    | malformed =>
        exact ⟨nofun, fun deep => absurd reached (Nat.not_le_of_lt deep)⟩
    | recursion => exact ⟨fun _ => reached, fun _ => rfl⟩
  · rw [parsed, Agrees, depthFrom_outermost (ends_of_parseOr parsed)] at reached
    have fits := reached.mpr (Nat.zero_le frames)
    exact ⟨nofun, fun deep => absurd fits (Nat.not_le_of_lt deep)⟩

omit [TextCase] [NumberText] in
theorem blank_of_tokenize {scope : String} (nothing : tokenize scope = []) :
    Text.strip scope = "" := by
  have spaces {characters : List Char} {tokens : List String} (lexed : Lexes characters tokens)
      (none : tokens = []) : ∀ character ∈ characters, Text.isSpace character = true := by
    induction lexed with
    | nil => exact nofun
    | space space _ induction => exact List.forall_mem_cons.mpr ⟨space, induction none⟩
    | parenthesis => cases none
    | word => cases none
  have all := spaces ((lexes_iff scope []).mpr nothing.symm) rfl
  rw [Text.strip, List.dropWhile_eq_nil_iff.mpr all]
  rfl

theorem grants_iff {scope : String} (filled : tokenize scope ≠ [])
    (requester : RequesterContext) :
    Grants scope requester ↔
      ∃ tree, Derives .orExpr (tokenize scope) tree ∧ tree.value requester = true := by
  constructor
  · intro granted
    rcases granted with blank | ⟨tree, written, holds⟩
    · rw [← tokenize_strip, blank] at filled
      exact absurd rfl filled
    · exact ⟨tree, (written_iff scope tree).mp written, holds⟩
  · intro ⟨tree, derived, holds⟩
    exact .inr ⟨tree, (written_iff scope tree).mpr derived, holds⟩

theorem not_grants_of_refused {scope : String} {requester : RequesterContext} (frames : Nat)
    (filled : tokenize scope ≠ [])
    (fits : parseOr requester frames (tokenize scope) ≠ .error .recursion)
    (refused : ∀ value, parseOr requester frames (tokenize scope) ≠ .ok (value, [])) :
    ¬Grants scope requester := by
  intro granted
  rcases (grants_iff filled requester).mp granted with ⟨tree, derived, _⟩
  rcases parseOr_of_derives requester derived frames with ended | parsed
  · exact fits ended
  · exact refused _ parsed

variable [CallDepth]

theorem allows_of_deep {scope : String} (deep : CallDepth.frames < nesting scope)
    (requester : RequesterContext) : allows scope requester = .error .recursionError := by
  rw [nesting] at deep
  split at deep
  · exact absurd deep (Nat.not_lt_zero _)
  · next filled =>
      rw [allows_eq, if_neg filled, parse,
        (parseOr_recursion_iff requester CallDepth.frames (tokenize scope)).mpr deep]

theorem allows_of_fits {scope : String} (fits : nesting scope ≤ CallDepth.frames)
    (requester : RequesterContext) :
    ∃ answer, allows scope requester = .ok answer ∧
      (answer = true ↔ Grants scope requester) := by
  rw [nesting] at fits
  rw [allows_eq]
  split at fits
  · next nothing =>
      have granted : Grants scope requester := .inl (blank_of_tokenize nothing)
      rw [if_pos nothing]
      exact ⟨true, rfl, fun _ => granted, fun _ => rfl⟩
  · next filled =>
      have room : parseOr requester CallDepth.frames (tokenize scope) ≠ .error .recursion :=
        fun exhausted => Nat.not_le_of_lt ((parseOr_recursion_iff _ _ _).mp exhausted) fits
      rw [if_neg filled, parse]
      rcases parsed : parseOr requester CallDepth.frames (tokenize scope) with
        failure | ⟨value, _ | ⟨token, rest⟩⟩
      · cases failure with
        | malformed =>
            have denied := not_grants_of_refused CallDepth.frames filled room
              (by rw [parsed]; intro value same; cases same)
            exact ⟨false, rfl, fun same => absurd same Bool.false_ne_true,
              fun granted => absurd granted denied⟩
        | recursion => exact absurd parsed room
      · refine ⟨value, rfl, ?_⟩
        rw [grants_iff filled]
        constructor
        · intro holds
          rcases (sound_parsers requester _).1 _ _ _ parsed with
            ⟨taken, tree, same, derived, value⟩
          rw [List.append_nil] at same
          exact ⟨tree, same ▸ derived, value.trans holds⟩
        · rintro ⟨tree, derived, holds⟩
          rcases parseOr_of_derives requester derived CallDepth.frames with ended | answered
          · exact absurd ended room
          · rw [parsed] at answered
            rwa [(Prod.mk.inj (Except.ok.inj answered)).1]
      · have denied := not_grants_of_refused CallDepth.frames filled room
          (by rw [parsed]; intro value same; cases (Prod.mk.inj (Except.ok.inj same)).2)
        exact ⟨false, rfl, fun same => absurd same Bool.false_ne_true,
              fun granted => absurd granted denied⟩

theorem allows_true_iff {scope : String} {requester : RequesterContext} :
    allows scope requester = .ok true ↔
      nesting scope ≤ CallDepth.frames ∧ Grants scope requester := by
  rcases Nat.lt_or_ge CallDepth.frames (nesting scope) with deep | fits
  · rw [allows_of_deep deep]
    exact ⟨nofun, fun allowed => absurd allowed.1 (Nat.not_le_of_lt deep)⟩
  · rcases allows_of_fits fits requester with ⟨answer, answered, meaning⟩
    rw [answered]
    constructor
    · intro allowed
      exact ⟨fits, meaning.mp (Except.ok.inj allowed)⟩
    · intro ⟨_, granted⟩
      rw [meaning.mpr granted]

/-- `audience_allows` answers as documented exactly for the expressions that the stack has
room for. -/
theorem audience_allows_iff (scope : String) (requester : RequesterContext) :
    (∃ answer, allows scope requester = .ok answer ∧
        (answer = true ↔ Grants scope requester)) ↔
      nesting scope ≤ CallDepth.frames := by
  constructor
  · intro ⟨answer, answered, _⟩
    apply Nat.le_of_not_lt
    intro deep
    rw [allows_of_deep deep] at answered
    cases answered
  · exact fun fits => allows_of_fits fits requester

end Reading

end Audience

/-! ## Samples -/

namespace AudienceSamples

open Audience
open scoped Plain PlainServing

scoped instance : CallDepth := ⟨1000⟩

def groups (count : Nat) : String :=
  String.ofList (List.replicate count '(')

theorem tokenize_groups (count : Nat) : tokenize (groups count) = List.replicate count "(" := by
  rw [tokenize, groups, String.toList_ofList]
  induction count with
  | zero => rfl
  | succ count induction =>
      rw [List.replicate_succ, tokenizeFrom_parenthesis (.inl rfl), induction]
      rfl

theorem le_depthFrom_groups (outer : List Nat) (depth count : Nat) :
    depth + 4 * count ≤ depthFrom outer depth (some 0) (List.replicate count "(") := by
  induction count generalizing outer depth with
  | zero => exact (Nat.le_add_right _ 4).trans (le_depthFrom outer depth 0 [])
  | succ count induction =>
      have plain : upper "(" ≠ "NOT" := by decide
      rw [List.replicate_succ, depthFrom_operand plain, if_pos rfl]
      have below := induction (depth :: outer) (depth + 0 + 4)
      exact le_max_of_le_right (by omega)

theorem groups_raise : ¬∃ answer, allows (groups 251) .anonymous = .ok answer ∧
    (answer = true ↔ Grants (groups 251) .anonymous) := by
  intro ⟨answer, answered, _⟩
  have deep := le_depthFrom_groups [] 0 251
  have filled : tokenize (groups 251) ≠ [] := by
    rw [tokenize_groups]
    exact List.cons_ne_nil _ _
  have exhausted : parseOr .anonymous CallDepth.frames (tokenize (groups 251)) =
      .error .recursion := by
    rw [parseOr_recursion_iff, tokenize_groups]
    change 1000 < _
    omega
  rw [allows_eq, if_neg filled, parse, exhausted] at answered
  cases answered

end AudienceSamples

end Agtp
