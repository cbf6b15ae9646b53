/-
This file proves that the parser reads the grammar. What a state of the parser still asks for is
written down as the sentences that complete it: the rest of the innermost type, and for each open
type around it what is missing there. A state takes a token exactly if some completion starts with
it, and then asks for the rest of these completions; a text may end where nothing is missing. So a
run from the start reads the derived sentences, and gives what their derivations denote.
-/

import ValueGen.Proofs.TypeExpr.Grammar
import ValueGen.Proofs.TypeExpr.Splitting
import ValueGen.TypeExpr.Parser

namespace ValueGen

namespace TypeParser

variable {scope : List String}

/-! ### Names and arguments as the parser builds them -/

theorem leaf_text (scope : List String) (name : DottedName) :
    leaf scope name.text = name.denote scope := by
  rw [leaf, DottedName.denote]
  simp only [List.contains_iff_mem]

/-- A name with further words. -/
def goOn (name : String) (words : List String) : String :=
  words.foldl (fun text word => text ++ "." ++ word) name

theorem goOn_first (name : DottedName) : goOn name.first name.others = name.text := by
  obtain ⟨first, others⟩ := name
  show goOn first others = ".".intercalate (first :: others)
  induction others generalizing first with
  | nil => exact String.intercalate_singleton.symm
  | cons word rest inductionHypothesis =>
    have joined : ".".intercalate ((first ++ "." ++ word) :: rest) =
        ".".intercalate (first :: word :: rest) := by
      rw [String.intercalate_cons_cons]
      cases rest with
      | nil => rw [String.intercalate_singleton, String.intercalate_singleton]
      | cons next later =>
        rw [String.intercalate_cons_cons, String.intercalate_cons_cons]
        simp only [String.append_assoc]
    exact (inductionHypothesis _).trans joined

/-- What a name with some arguments denotes. -/
def applied (raw : TypeExpr) : List TypeExpr → TypeExpr
  | [] => raw
  | first :: others => .parameterized raw (first :: others)

/-- The tokens of arguments between angle brackets, and none if there are no arguments. -/
def enclosed : List ArgumentDerivation → List TypeToken
  | [] => []
  | first :: others => .less :: (first.tokens ++ (furtherTokens others ++ [.greater]))

/-! ### What a state asks for -/

/-- The sentences that complete a text behind a finished type, and the types that they give: for
each open type around it they go on with what is missing there. A wildcard is never the end. -/
def Closes (scope : List String) (result : TypeExpr) :
    TypeExpr → List Frame → List TypeToken → Prop
  | type, [], tokens => tokens = [] ∧ type = result
  | type, .bound variance :: outer, tokens =>
    tokens ≠ [] ∧ Closes scope result (.bounded variance type) outer tokens
  | type, .arguments raw done :: outer, tokens =>
    ∃ further dimensions rest,
      tokens = furtherTokens further ++ .greater :: (bracketPairs dimensions ++ rest) ∧
        Closes scope result
          (arrayOf dimensions
            (.parameterized raw ((type :: done).reverse ++ denoteAll scope further)))
          outer rest

section Completions

variable (scope : List String) (result : TypeExpr) (frames : List Frame) (tokens : List TypeToken)

/-- The sentences in which a type comes first. -/
def StartsType : Prop :=
  ∃ (derivation : TypeDerivation) (rest : List TypeToken),
    tokens = derivation.tokens ++ rest ∧ Closes scope result (derivation.denote scope) frames rest

/-- The sentences that go on with a name. -/
def GoesOnName (name : String) : Prop :=
  ∃ words arguments dimensions rest,
    tokens = DottedName.dotted words ++ (enclosed arguments ++ (bracketPairs dimensions ++ rest)) ∧
      Closes scope result
        (arrayOf dimensions (applied (leaf scope (goOn name words)) (denoteAll scope arguments)))
        frames rest

/-- The sentences that go on with a type to which only bracket pairs can be added. -/
def GoesOnType (type : TypeExpr) : Prop :=
  ∃ dimensions rest, tokens = bracketPairs dimensions ++ rest ∧
    Closes scope result (arrayOf dimensions type) frames rest

/-- The sentences that go on with a wildcard. -/
def GoesOnWildcard : Prop :=
  (∃ variance rest, tokens = .identifier (Variance.word variance) :: rest ∧
    StartsType scope result (.bound variance :: frames) rest) ∨
  tokens ≠ [] ∧ Closes scope result (.unbounded .upper) frames tokens

/-- The sentences that complete what a state has read, and the types that they give. -/
def Completes : Stage × List Frame → List TypeToken → Prop
  | (.start, frames), tokens => StartsType scope result frames tokens
  | (.afterDot name, frames), tokens =>
    ∃ word rest, tokens = .identifier word :: rest ∧
      GoesOnName scope result frames rest (name ++ "." ++ word)
  | (.afterName name, frames), tokens => GoesOnName scope result frames tokens name
  | (.afterType type, frames), tokens => GoesOnType scope result frames tokens type
  | (.inBrackets type, frames), tokens =>
    ∃ rest, tokens = .closeBracket :: rest ∧ GoesOnType scope result frames rest (.array type)
  | (.argument, frames), tokens =>
    StartsType scope result frames tokens ∨
      ∃ rest, tokens = .question :: rest ∧ GoesOnWildcard scope result frames rest
  | (.afterQuestion, frames), tokens => GoesOnWildcard scope result frames tokens

end Completions

/-! ### What follows a finished type -/

section Finished

variable {result type raw : TypeExpr} {done : List TypeExpr} {outer : List Frame}
  {token : TypeToken} {tokens rest : List TypeToken}

/-- Arguments are open until something ends them. -/
theorem ne_nil_of_closes (closes : Closes scope result type (.arguments raw done :: outer) tokens) :
    tokens ≠ [] := by
  obtain ⟨further, dimensions, rest, rfl, _⟩ := closes
  exact List.append_ne_nil_of_right_ne_nil _ (List.cons_ne_nil _ _)

/-- An argument has to start exactly where a derived argument comes first. -/
theorem completes_argument_iff :
    Completes scope result (.argument, .arguments raw done :: outer) tokens ↔
      ∃ (argument : ArgumentDerivation) (rest : List TypeToken),
        tokens = argument.tokens ++ rest ∧
          Closes scope result (argument.denote scope) (.arguments raw done :: outer) rest := by
  constructor
  · rintro (⟨derivation, rest, rfl, closes⟩ | ⟨_, rfl, ⟨variance, _, rfl, bound⟩ | ⟨_, closes⟩⟩)
    · exact ⟨.type derivation, rest, rfl, closes⟩
    · obtain ⟨derivation, rest, rfl, closes⟩ := bound
      exact ⟨.bounded variance derivation, rest, rfl, closes.2⟩
    · exact ⟨.wildcard, _, rfl, closes⟩
  · rintro ⟨argument, rest, rfl, closes⟩
    have goesOn := ne_nil_of_closes closes
    cases argument with
    | type derivation => exact Or.inl ⟨derivation, rest, rfl, closes⟩
    | wildcard => exact Or.inr ⟨rest, rfl, Or.inr ⟨goesOn, closes⟩⟩
    | bounded variance derivation =>
      exact Or.inr ⟨_, rfl, Or.inl ⟨variance, _, rfl, derivation, rest, rfl, goesOn, closes⟩⟩

theorem closes_comma_iff :
    Closes scope result type (.arguments raw done :: outer) (.comma :: rest) ↔
      Completes scope result (.argument, .arguments raw (type :: done) :: outer) rest := by
  rw [completes_argument_iff]
  constructor
  · rintro ⟨_ | ⟨argument, further⟩, dimensions, later, same, closes⟩
    · cases same
    · refine ⟨argument, furtherTokens further ++ .greater :: (bracketPairs dimensions ++ later),
        ?_, further, dimensions, later, rfl, ?_⟩
      · rw [← List.append_assoc]
        exact List.tail_eq_of_cons_eq same
      · rw [denoteAll, List.append_cons, ← List.reverse_cons] at closes
        exact closes
  · rintro ⟨argument, _, rfl, further, dimensions, later, rfl, closes⟩
    refine ⟨argument :: further, dimensions, later, ?_, ?_⟩
    · rw [furtherTokens, List.cons_append, List.append_assoc]
    · rw [denoteAll, List.append_cons, ← List.reverse_cons]
      exact closes

theorem closes_greater_iff :
    Closes scope result type (.arguments raw done :: outer) (.greater :: rest) ↔
      Completes scope result (.afterType (.parameterized raw (type :: done).reverse), outer)
        rest := by
  constructor
  · rintro ⟨_ | ⟨argument, further⟩, dimensions, later, same, closes⟩
    · rw [denoteAll, List.append_nil] at closes
      exact ⟨dimensions, later, List.tail_eq_of_cons_eq same, closes⟩
    · cases same
  · rintro ⟨dimensions, later, rfl, closes⟩
    refine ⟨[], dimensions, later, rfl, ?_⟩
    rw [denoteAll, List.append_nil]
    exact closes

/-- Nothing else follows a finished argument. -/
theorem token_of_closes
    (closes : Closes scope result type (.arguments raw done :: outer) (token :: rest)) :
    token = .comma ∨ token = .greater := by
  obtain ⟨_ | ⟨argument, further⟩, dimensions, later, same, _⟩ := closes
  · exact Or.inr (List.head_eq_of_cons_eq same)
  · exact Or.inl (List.head_eq_of_cons_eq same)

theorem afterFinished_bound (type : TypeExpr) (variance : Variance) (outer : List Frame)
    (token : TypeToken) :
    afterFinished type (.bound variance :: outer) token =
      afterFinished (.bounded variance type) outer token := rfl

/-- The parser takes a token behind a finished type exactly if a sentence goes on with it there. -/
theorem closes_cons_iff {frames : List Frame} :
    Closes scope result type frames (token :: rest) ↔
      ∃ next, afterFinished type frames token = some next ∧ Completes scope result next rest := by
  induction frames generalizing type with
  | nil =>
    constructor
    · rintro ⟨impossible, _⟩
      cases impossible
    · rintro ⟨next, impossible, _⟩
      cases impossible
  | cons frame outer inductionHypothesis =>
    cases frame with
    | bound variance =>
      rw [afterFinished_bound, ← inductionHypothesis]
      exact ⟨fun closes => closes.2, fun closes => ⟨List.cons_ne_nil _ _, closes⟩⟩
    | arguments raw done =>
      by_cases comma : token = .comma
      · subst comma
        rw [closes_comma_iff]
        simp [afterFinished, closeBounds]
      · by_cases greater : token = .greater
        · subst greater
          rw [closes_greater_iff]
          simp [afterFinished, closeBounds]
        · refine iff_of_false (fun closes => (token_of_closes closes).elim comma greater) ?_
          rintro ⟨next, taken, _⟩
          cases token <;> first | exact comma rfl | exact greater rfl | cases taken

/-- Only a comma or the end of arguments is taken behind a finished type. -/
theorem afterFinished_eq_none (frames : List Frame) (notComma : token ≠ .comma)
    (notGreater : token ≠ .greater) : afterFinished type frames token = none := by
  unfold afterFinished
  split
  · exact absurd rfl notComma
  · exact absurd rfl notGreater
  · rfl

theorem closes_nil_iff {frames : List Frame} :
    Closes scope result type frames [] ↔ frames = [] ∧ type = result := by
  cases frames with
  | nil => exact and_congr_left' (iff_of_true rfl rfl)
  | cons frame outer =>
    refine iff_of_false (fun closes => ?_) (fun closed => List.cons_ne_nil _ _ closed.1)
    cases frame with
    | bound variance => exact closes.1 rfl
    | arguments raw done => exact ne_nil_of_closes closes rfl

end Finished

/-! ### What follows a name, brackets and a question mark -/

section Further

variable {result type : TypeExpr} {frames : List Frame} {name : String} {tokens : List TypeToken}

/-- A type that bracket pairs can extend is finished, or a bracket pair comes next. -/
theorem goesOnType_iff :
    GoesOnType scope result frames tokens type ↔
      Closes scope result type frames tokens ∨
        ∃ rest, tokens = .openBracket :: .closeBracket :: rest ∧
          GoesOnType scope result frames rest (.array type) := by
  constructor
  · rintro ⟨_ | dimensions, rest, rfl, closes⟩
    · exact Or.inl closes
    · exact Or.inr ⟨_, rfl, dimensions, rest, rfl, closes⟩
  · rintro (closes | ⟨_, rfl, dimensions, rest, rfl, closes⟩)
    · exact ⟨0, tokens, rfl, closes⟩
    · exact ⟨dimensions + 1, rest, rfl, closes⟩

/-- A name goes on with a dot and a word, or with arguments, or it is the whole name of a type
without arguments. -/
theorem goesOnName_iff :
    GoesOnName scope result frames tokens name ↔
      (∃ word rest, tokens = .dot :: .identifier word :: rest ∧
        GoesOnName scope result frames rest (name ++ "." ++ word)) ∨
      (∃ rest, tokens = .less :: rest ∧
        Completes scope result (.argument, .arguments (leaf scope name) [] :: frames) rest) ∨
      GoesOnType scope result frames tokens (leaf scope name) := by
  simp only [completes_argument_iff]
  constructor
  · rintro ⟨_ | ⟨word, words⟩, arguments, dimensions, rest, rfl, closes⟩
    · right
      cases arguments with
      | nil => exact Or.inr ⟨dimensions, rest, rfl, closes⟩
      | cons first others =>
        refine Or.inl ⟨_, rfl, first,
          furtherTokens others ++ .greater :: (bracketPairs dimensions ++ rest), ?_,
          others, dimensions, rest, rfl, closes⟩
        simp
    · exact Or.inl ⟨word, _, rfl, words, arguments, dimensions, rest, rfl, closes⟩
  · rintro (⟨word, _, rfl, words, arguments, dimensions, rest, rfl, closes⟩ |
      ⟨_, rfl, first, _, rfl, others, dimensions, rest, rfl, closes⟩ |
      ⟨dimensions, rest, rfl, closes⟩)
    · exact ⟨word :: words, arguments, dimensions, rest, rfl, closes⟩
    · refine ⟨[], first :: others, dimensions, rest, ?_, closes⟩
      simp [enclosed, DottedName.dotted]
    · exact ⟨[], [], dimensions, rest, rfl, closes⟩

theorem tokens_type (name : DottedName) (arguments : List ArgumentDerivation) (dimensions : Nat) :
    (TypeDerivation.type name arguments dimensions).tokens =
      .identifier name.first ::
        (DottedName.dotted name.others ++ (enclosed arguments ++ bracketPairs dimensions)) := by
  cases arguments with
  | nil => rfl
  | cons first others => simp [TypeDerivation.tokens, DottedName.tokens, enclosed]

theorem denote_type (scope : List String) (name : DottedName)
    (arguments : List ArgumentDerivation) (dimensions : Nat) :
    (TypeDerivation.type name arguments dimensions).denote scope =
      arrayOf dimensions (applied (name.denote scope) (denoteAll scope arguments)) := by
  cases arguments with
  | nil => rfl
  | cons first others => rfl

/-- A type starts with a word of its name. -/
theorem startsType_iff :
    StartsType scope result frames tokens ↔
      ∃ word rest, tokens = .identifier word :: rest ∧
        GoesOnName scope result frames rest word := by
  constructor
  · rintro ⟨⟨name, arguments, dimensions⟩, rest, rfl, closes⟩
    rw [denote_type, ← leaf_text, ← goOn_first] at closes
    refine ⟨name.first, _, ?_, name.others, arguments, dimensions, rest, rfl, closes⟩
    rw [tokens_type, List.cons_append, List.append_assoc, List.append_assoc]
  · rintro ⟨word, _, rfl, words, arguments, dimensions, rest, rfl, closes⟩
    refine ⟨.type ⟨word, words⟩ arguments dimensions, rest, ?_, ?_⟩
    · rw [tokens_type, List.cons_append, List.append_assoc, List.append_assoc]
    · rw [denote_type, ← leaf_text, ← goOn_first]
      exact closes

theorem goesOnType_nil_iff :
    GoesOnType scope result frames [] type ↔ frames = [] ∧ type = result := by
  rw [goesOnType_iff, closes_nil_iff]
  simp

theorem goesOnName_nil_iff :
    GoesOnName scope result frames [] name ↔ frames = [] ∧ leaf scope name = result := by
  rw [goesOnName_iff, goesOnType_nil_iff]
  simp

end Further

/-! ### One token, and all tokens -/

/-- A text may end where nothing is missing. -/
theorem completes_nil_iff {result : TypeExpr} (state : Stage × List Frame) :
    Completes scope result state [] ↔ TypeParser.result scope state = some result := by
  obtain ⟨stage, frames⟩ := state
  cases stage with
  | start => simp [Completes, startsType_iff, TypeParser.result]
  | afterDot name => simp [Completes, TypeParser.result]
  | afterName name =>
    rw [Completes, goesOnName_nil_iff]
    cases frames <;> simp [TypeParser.result]
  | afterType type =>
    rw [Completes, goesOnType_nil_iff]
    cases frames <;> simp [TypeParser.result]
  | inBrackets type => simp [Completes, TypeParser.result]
  | argument => simp [Completes, startsType_iff, TypeParser.result]
  | afterQuestion => simp [Completes, GoesOnWildcard, TypeParser.result]

section Step

variable {result type : TypeExpr} {frames : List Frame} {name : String} {token : TypeToken}
  {rest : List TypeToken}

/-- What comes of a state that takes a token. -/
def Takes (scope : List String) (result : TypeExpr) (state : Stage × List Frame)
    (token : TypeToken) (rest : List TypeToken) : Prop :=
  ∃ next, step scope state token = some next ∧ Completes scope result next rest

theorem takes_of_step {state next : Stage × List Frame}
    (taken : step scope state token = some next) :
    Takes scope result state token rest ↔ Completes scope result next rest := by
  rw [Takes, taken]
  simp

theorem goesOnType_cons_iff :
    GoesOnType scope result frames (token :: rest) type ↔
      Takes scope result (.afterType type, frames) token rest := by
  rw [goesOnType_iff, closes_cons_iff]
  cases token with
  | openBracket => simp [Takes, step, Completes, afterFinished_eq_none]
  | _ => simp [Takes, step]

theorem goesOnName_cons_iff :
    GoesOnName scope result frames (token :: rest) name ↔
      Takes scope result (.afterName name, frames) token rest := by
  rw [goesOnName_iff, goesOnType_cons_iff]
  cases token with
  | dot => simp [Takes, step, Completes, afterFinished_eq_none]
  | less => simp [Takes, step, afterFinished_eq_none]
  | _ => simp [Takes, step]

theorem step_word (variance : Variance) :
    step scope (.afterQuestion, frames) (.identifier variance.word) =
      some (.start, .bound variance :: frames) := by
  cases variance <;> rfl

/-- No other word follows a question mark. -/
theorem step_otherWord {word : String} (other : ∀ variance : Variance, word ≠ variance.word) :
    step scope (.afterQuestion, frames) (.identifier word) = none := by
  have refused : step scope (.afterQuestion, frames) (.identifier word) =
      afterFinished (.unbounded .upper) frames (.identifier word) := by
    have notExtends : word ≠ "extends" := other .upper
    have notSuper : word ≠ "super" := other .lower
    simp [step, notExtends, notSuper]
  rw [refused, afterFinished_eq_none frames (by simp) (by simp)]

theorem goesOnWildcard_cons_iff :
    GoesOnWildcard scope result frames (token :: rest) ↔
      Takes scope result (.afterQuestion, frames) token rest := by
  rw [GoesOnWildcard, closes_cons_iff]
  cases token with
  | identifier word =>
    rw [afterFinished_eq_none frames (by simp) (by simp)]
    by_cases known : ∃ variance : Variance, word = variance.word
    · obtain ⟨variance, rfl⟩ := known
      rw [takes_of_step (step_word variance)]
      constructor
      · rintro (⟨other, _, same, starts⟩ | ⟨_, _, impossible, _⟩)
        · injection same with sameToken sameRest
          obtain rfl := Variance.word_injective (TypeToken.identifier.inj sameToken)
          exact sameRest ▸ starts
        · cases impossible
      · exact fun starts => Or.inl ⟨variance, rest, rfl, starts⟩
    · rw [not_exists] at known
      rw [Takes, step_otherWord known]
      simp [known]
  | _ => simp [Takes, step]

/-- A state takes a token exactly if some completion of what it has read starts with the token, and
then it asks for the rest of these completions. -/
theorem completes_cons_iff (state : Stage × List Frame) :
    Completes scope result state (token :: rest) ↔ Takes scope result state token rest := by
  obtain ⟨stage, frames⟩ := state
  cases stage with
  | start =>
    rw [Completes, startsType_iff]
    cases token <;> simp [Takes, step, Completes, and_assoc]
  | afterDot name => cases token <;> simp [Takes, step, Completes, and_assoc]
  | afterName name => exact goesOnName_cons_iff
  | afterType type => exact goesOnType_cons_iff
  | inBrackets type => cases token <;> simp [Takes, step, Completes]
  | argument =>
    rw [Completes, startsType_iff]
    cases token <;> simp [Takes, step, Completes, and_assoc]
  | afterQuestion => exact goesOnWildcard_cons_iff

end Step

/-- From a state the parser reads the sentences that complete what the state has read, whatever
their offsets are. -/
theorem exists_run_iff {result : TypeExpr} (state : Stage × List Frame)
    (lexemes : List TypeLexeme) :
    (∃ last, run scope state lexemes = .ok last ∧ TypeParser.result scope last = some result) ↔
      Completes scope result state (lexemes.map (·.token)) := by
  induction lexemes generalizing state with
  | nil =>
    rw [List.map_nil, completes_nil_iff, run]
    simp
  | cons lexeme rest inductionHypothesis =>
    rw [List.map_cons, completes_cons_iff, Takes, run]
    cases step scope state lexeme.token with
    | none => simp
    | some next => simpa using inductionHypothesis next

/-- At the start the derived sentences are missing. -/
theorem completes_start_iff {result : TypeExpr} {tokens : List TypeToken} :
    Completes scope result (.start, []) tokens ↔
      ∃ derivation : TypeDerivation,
        tokens = derivation.tokens ∧ derivation.denote scope = result := by
  constructor
  · rintro ⟨derivation, rest, same, rfl, denoted⟩
    exact ⟨derivation, by rw [same, List.append_nil], denoted⟩
  · rintro ⟨derivation, same, denoted⟩
    exact ⟨derivation, [], by rw [same, List.append_nil], rfl, denoted⟩

/-- From the start the parser reads the derived sentences, and gives what they denote. -/
theorem exists_run_start_iff {result : TypeExpr} (lexemes : List TypeLexeme) :
    (∃ last, run scope (.start, []) lexemes = .ok last ∧
        TypeParser.result scope last = some result) ↔
      ∃ derivation : TypeDerivation,
        lexemes.map (·.token) = derivation.tokens ∧ derivation.denote scope = result := by
  rw [exists_run_iff, completes_start_iff]

/-- What the parser makes of tokens does not depend on their offsets. -/
theorem mapError_run_eq {first second : List TypeLexeme}
    (same : first.map (·.token) = second.map (·.token)) (state : Stage × List Frame) :
    (run scope state first).mapError (·.token) = (run scope state second).mapError (·.token) := by
  induction first generalizing second state with
  | nil =>
    obtain rfl := List.map_eq_nil_iff.mp same.symm
    rfl
  | cons lexeme rest inductionHypothesis =>
    obtain ⟨other, others, rfl, sameToken, sameRest⟩ := List.map_eq_cons_iff.mp same.symm
    rw [run, run, sameToken]
    cases step scope state lexeme.token with
    | none => exact congrArg Except.error sameToken.symm
    | some next => exact inductionHypothesis sameRest.symm next

end TypeParser

/-- An error without the text and the place in it. -/
def TypeSyntaxError.withoutPlace : TypeSyntaxError → TypeSyntaxError
  | .empty => .empty
  | .unexpected found _ _ => .unexpected found 0 ""
  | .unexpectedEnd _ => .unexpectedEnd ""

namespace TypeExpr

open TypeParser TypeToken

variable {scope : List String} {text : String} {type : TypeExpr}

theorem parse_of_scan {lexemes : List TypeLexeme} (scanned : scan 0 text.toList = .ok lexemes) :
    parse scope text =
      if lexemes = [] then .error .empty
      else
        match run scope (.start, []) lexemes with
        | .error lexeme => .error (.unexpected lexeme.token.text lexeme.offset text)
        | .ok state =>
          match TypeParser.result scope state with
          | some type => .ok type
          | none => .error (.unexpectedEnd text) := by
  rw [parse, scanned]
  cases lexemes with
  | nil => rfl
  | cons lexeme rest => exact (if_neg (List.cons_ne_nil _ _)).symm

theorem parse_eq_ok_iff_of_scan {lexemes : List TypeLexeme}
    (scanned : scan 0 text.toList = .ok lexemes) :
    parse scope text = .ok type ↔
      ∃ last, run scope (.start, []) lexemes = .ok last ∧
        TypeParser.result scope last = some type := by
  rw [parse_of_scan scanned]
  cases lexemes with
  | nil => simp [run, TypeParser.result]
  | cons lexeme rest =>
    rw [if_neg (List.cons_ne_nil _ _)]
    cases run scope (.start, []) (lexeme :: rest) with
    | error lexeme => simp
    | ok last => cases found : TypeParser.result scope last <;> simp [found]

/-- A text is read as a type exactly if it splits into a derived sentence that denotes the type. -/
theorem parse_eq_ok_iff :
    parse scope text = .ok type ↔
      ∃ derivation : TypeDerivation,
        Splits text.toList derivation.tokens ∧ derivation.denote scope = type := by
  cases scanned : scan 0 text.toList with
  | error failure =>
    refine iff_of_false (fun impossible => ?_) ?_
    · rw [parse, scanned] at impossible
      cases impossible
    · rintro ⟨derivation, splits, _⟩
      obtain ⟨lexemes, found, _⟩ := splits.scan 0
      cases scanned.symm.trans found
  | ok lexemes =>
    rw [parse_eq_ok_iff_of_scan scanned, exists_run_start_iff]
    refine exists_congr fun derivation => and_congr_left' ⟨fun same => ?_, fun splits => ?_⟩
    · rw [← same]
      exact splits_of_scan scanned
    · exact (splits_of_scan scanned).unique splits

/-- Without its place, the outcome depends on the tokens only. -/
theorem mapError_parse_of_scan {lexemes : List TypeLexeme}
    (scanned : scan 0 text.toList = .ok lexemes) :
    (parse scope text).mapError (·.withoutPlace) =
      if lexemes.map (·.token) = [] then .error .empty
      else
        match (run scope (.start, []) lexemes).mapError (·.token) with
        | .error token => .error (.unexpected token.text 0 "")
        | .ok state =>
          match TypeParser.result scope state with
          | some type => .ok type
          | none => .error (.unexpectedEnd "") := by
  rw [parse_of_scan scanned]
  cases lexemes with
  | nil => rfl
  | cons lexeme rest =>
    rw [List.map_cons, if_neg (List.cons_ne_nil _ _), if_neg (List.cons_ne_nil _ _)]
    cases run scope (.start, []) (lexeme :: rest) with
    | error lexeme => rfl
    | ok last =>
      have kept : (Except.ok last).mapError (fun lexeme : TypeLexeme => lexeme.token) = .ok last :=
        rfl
      rw [kept]
      dsimp only
      cases TypeParser.result scope last with
      | none => rfl
      | some type => rfl

/-- Texts with the same tokens are read alike, up to the place to which an error points. -/
theorem mapError_parse_eq {other : String} {tokens : List TypeToken}
    (splits : Splits text.toList tokens) (otherSplits : Splits other.toList tokens) :
    (parse scope text).mapError (·.withoutPlace) =
      (parse scope other).mapError (·.withoutPlace) := by
  obtain ⟨lexemes, scanned, rfl⟩ := splits.scan 0
  obtain ⟨otherLexemes, otherScanned, same⟩ := otherSplits.scan 0
  rw [mapError_parse_of_scan scanned, mapError_parse_of_scan otherScanned, same,
    mapError_run_eq same.symm]

/-! ### The parser reads the grammar -/

/-- What the parser makes of a text, in the words of the grammar. -/
structure FollowsGrammar (scope : List String) (text : String) : Prop where
  /-- A text is read as a type exactly if it splits into a derived sentence. -/
  accepts : (∃ type, parse scope text = .ok type) ↔
    ∃ tokens, Splits text.toList tokens ∧ ∃ derivation : TypeDerivation, derivation.tokens = tokens
  /-- A text splits in at most one way. -/
  splitsOnce : ∀ tokens others, Splits text.toList tokens → Splits text.toList others →
    tokens = others
  /-- The tokens of a text have at most one derivation. -/
  derivedOnce : ∀ tokens, Splits text.toList tokens → ∀ first second : TypeDerivation,
    first.tokens = tokens → second.tokens = tokens → first = second
  /-- The type is the one that the derivation denotes. -/
  denotes : ∀ derivation : TypeDerivation, Splits text.toList derivation.tokens →
    parse scope text = .ok (derivation.denote scope)
  /-- Whether a text is read as a type does not depend on the scope. -/
  anyScope : ∀ other, (∃ type, parse other text = .ok type) ↔ ∃ type, parse scope text = .ok type
  /-- A text with the same tokens gives the same type or the same error, up to the offset and the
  text that the error quotes. -/
  sameTokens : ∀ other tokens, Splits text.toList tokens → Splits other.toList tokens →
    (parse scope other).mapError (·.withoutPlace) = (parse scope text).mapError (·.withoutPlace)

theorem exists_parse_iff (scope : List String) (text : String) :
    (∃ type, parse scope text = .ok type) ↔
      ∃ tokens, Splits text.toList tokens ∧
        ∃ derivation : TypeDerivation, derivation.tokens = tokens := by
  simp only [parse_eq_ok_iff]
  constructor
  · rintro ⟨_, derivation, splits, _⟩
    exact ⟨_, splits, derivation, rfl⟩
  · rintro ⟨_, splits, derivation, rfl⟩
    exact ⟨_, derivation, splits, rfl⟩

/-- The parser reads exactly the texts of the grammar, each as what its one derivation denotes. -/
theorem followsGrammar_parse (scope : List String) (text : String) : FollowsGrammar scope text where
  accepts := exists_parse_iff scope text
  splitsOnce _ _ first second := first.unique second
  derivedOnce _ _ _ _ first second := TypeDerivation.tokens_injective (first.trans second.symm)
  denotes derivation splits := parse_eq_ok_iff.mpr ⟨derivation, splits, rfl⟩
  anyScope other := by rw [exists_parse_iff, exists_parse_iff]
  sameTokens _ _ splits otherSplits := mapError_parse_eq otherSplits splits

example : (parse ["T"] "Map < java . lang . T, ? extends T > []").toOption =
    some (.array (.parameterized (.named "Map")
      [.named "java.lang.T", .bounded .upper (.typeVariable "T" [])])) := by
  decide +kernel

end TypeExpr

end ValueGen
