/-
This file says which texts are refused and how. Every state that the parser reaches can be
completed, so the tokens that it has taken start a sentence of the grammar, and a token that it does
not take is the first one with which they start none. A text is refused because it is blank, for its
first stray character, for the first token that no type could go on with, or because it ends within
a type; in this order, and for nothing else. Where something is pointed at, it stands there.
-/

import ValueGen.Proofs.TypeExpr.Canonical
import ValueGen.Proofs.TypeExpr.Placing

namespace ValueGen

/-! ### Sentences and their starts -/

/-- Whether some tokens are those of a type: there is a derivation, and its words are
identifiers. -/
def Sentence (tokens : List TypeToken) : Prop :=
  TypeToken.Spelled tokens ∧ ∃ derivation : TypeDerivation, derivation.tokens = tokens

/-- Whether some sentence starts with the tokens. -/
def Viable (tokens : List TypeToken) : Prop := ∃ more, Sentence (tokens ++ more)

theorem Viable.of_append {tokens more : List TypeToken} (viable : Viable (tokens ++ more)) :
    Viable tokens := by
  obtain ⟨rest, sentence⟩ := viable
  rw [List.append_assoc] at sentence
  exact ⟨_, sentence⟩

namespace TypeParser

variable {scope : List String}

/-! ### Every state can be completed -/

/-- Whether an argument is what is read next. -/
def WithinArguments : List Frame → Prop
  | .arguments _ _ :: _ => True
  | _ => False

/-- Whether the wildcards that wait for their bounds are arguments. -/
def Nested : List Frame → Prop
  | [] => True
  | .arguments _ _ :: outer => Nested outer
  | .bound _ :: outer => WithinArguments outer ∧ Nested outer

/-- Whether wildcards are read as arguments only. -/
def WellNested : Stage × List Frame → Prop
  | (.argument, frames) => WithinArguments frames ∧ Nested frames
  | (.afterQuestion, frames) => WithinArguments frames ∧ Nested frames
  | (_, frames) => Nested frames

theorem nested_closeBounds (type : TypeExpr) {frames : List Frame} (nested : Nested frames) :
    Nested (closeBounds type frames).2 := by
  induction frames generalizing type with
  | nil => exact nested
  | cons frame outer inductionHypothesis =>
    cases frame with
    | arguments raw done => exact nested
    | bound variance => exact inductionHypothesis _ nested.2

theorem wellNested_afterFinished {type : TypeExpr} {frames : List Frame} {token : TypeToken}
    {next : Stage × List Frame} (nested : Nested frames)
    (taken : afterFinished type frames token = some next) : WellNested next := by
  have closed := nested_closeBounds type nested
  unfold afterFinished at taken
  split at taken
  · rename_i last raw done outer same
    rw [same] at closed
    obtain rfl := Option.some.inj taken
    exact ⟨trivial, closed⟩
  · rename_i last raw done outer same
    rw [same] at closed
    obtain rfl := Option.some.inj taken
    exact closed
  · cases taken

/-- Taking a token keeps wildcards where they are read. -/
theorem wellNested_step {state next : Stage × List Frame} {token : TypeToken}
    (nested : WellNested state) (taken : step scope state token = some next) :
    WellNested next := by
  obtain ⟨stage, frames⟩ := state
  cases stage with
  | start | afterDot | inBrackets =>
    cases token <;> cases taken
    all_goals exact nested
  | afterName name =>
    cases token with
    | dot | less | openBracket =>
      cases taken
      first | exact nested | exact ⟨trivial, nested⟩
    | identifier | greater | comma | question | closeBracket =>
      exact wellNested_afterFinished nested taken
  | afterType type =>
    cases token with
    | openBracket =>
      cases taken
      exact nested
    | identifier | less | greater | comma | question | closeBracket | dot =>
      exact wellNested_afterFinished nested taken
  | argument =>
    cases token with
    | question =>
      cases taken
      exact nested
    | identifier word =>
      cases taken
      exact nested.2
    | less | greater | comma | openBracket | closeBracket | dot => cases taken
  | afterQuestion =>
    cases token with
    | identifier word =>
      by_cases known : ∃ variance : Variance, word = variance.word
      · obtain ⟨variance, rfl⟩ := known
        rw [step_word] at taken
        cases taken
        exact nested
      · rw [step_otherWord (not_exists.mp known)] at taken
        cases taken
    | less | greater | comma | question | openBracket | closeBracket | dot =>
      exact wellNested_afterFinished nested.2 taken

/-- The ends of the argument lists that are open. -/
def closing : List Frame → List TypeToken
  | [] => []
  | .arguments _ _ :: outer => .greater :: closing outer
  | .bound _ :: outer => closing outer

theorem spelled_closing (frames : List Frame) : TypeToken.Spelled (closing frames) := by
  induction frames with
  | nil => exact TypeToken.spelled_nil
  | cons frame outer inductionHypothesis =>
    cases frame with
    | arguments raw done => exact (TypeToken.spelled_mark_iff (by decide)).mpr inductionHypothesis
    | bound variance => exact inductionHypothesis

theorem closing_ne_nil {frames : List Frame} (within : WithinArguments frames) :
    closing frames ≠ [] := by
  match frames with
  | .arguments raw done :: outer => exact List.cons_ne_nil _ _

/-- A finished type may be followed by the ends of all argument lists around it. -/
theorem exists_closes (scope : List String) {frames : List Frame} (nested : Nested frames)
    (type : TypeExpr) :
    ∃ result, Closes scope result type frames (closing frames) := by
  induction frames generalizing type with
  | nil => exact ⟨type, rfl, rfl⟩
  | cons frame outer inductionHypothesis =>
    cases frame with
    | arguments raw done =>
      obtain ⟨result, closes⟩ := inductionHypothesis nested
        (.parameterized raw ((type :: done).reverse ++ denoteAll scope []))
      exact ⟨result, [], 0, closing outer, rfl, closes⟩
    | bound variance =>
      obtain ⟨result, closes⟩ := inductionHypothesis nested.2 (.bounded variance type)
      exact ⟨result, @closing_ne_nil outer nested.1, closes⟩

theorem exists_goesOnName (scope : List String) {frames : List Frame} (nested : Nested frames)
    (name : String) :
    ∃ result, GoesOnName scope result frames (closing frames) name := by
  obtain ⟨result, closes⟩ := exists_closes scope nested (leaf scope name)
  exact ⟨result, goesOnName_iff.mpr (Or.inr (Or.inr ⟨0, closing frames, rfl, closes⟩))⟩

/-- Every state in which wildcards are read as arguments only can be completed. -/
theorem exists_completion (scope : List String) {state : Stage × List Frame}
    (nested : WellNested state) :
    ∃ result more, TypeToken.Spelled more ∧ Completes scope result state more := by
  obtain ⟨stage, frames⟩ := state
  have word : TypeToken.Spelled (.identifier Variance.upper.word :: closing frames) :=
    TypeToken.spelled_identifier_iff.mpr ⟨isIdentifier_word .upper, spelled_closing frames⟩
  cases stage with
  | start =>
    obtain ⟨result, goesOn⟩ := exists_goesOnName scope nested Variance.upper.word
    exact ⟨result, _, word, startsType_iff.mpr ⟨_, _, rfl, goesOn⟩⟩
  | afterDot name =>
    obtain ⟨result, goesOn⟩ :=
      exists_goesOnName scope nested (name ++ "." ++ Variance.upper.word)
    exact ⟨result, _, word, _, _, rfl, goesOn⟩
  | afterName name =>
    obtain ⟨result, goesOn⟩ := exists_goesOnName scope nested name
    exact ⟨result, _, spelled_closing frames, goesOn⟩
  | afterType type =>
    obtain ⟨result, closes⟩ := exists_closes scope nested type
    exact ⟨result, _, spelled_closing frames, 0, _, rfl, closes⟩
  | inBrackets type =>
    obtain ⟨result, closes⟩ := exists_closes scope nested (.array type)
    exact ⟨result, .closeBracket :: closing frames,
      (TypeToken.spelled_mark_iff (by decide)).mpr (spelled_closing frames), _, rfl, 0, _, rfl,
      closes⟩
  | argument =>
    obtain ⟨result, goesOn⟩ := exists_goesOnName scope nested.2 Variance.upper.word
    exact ⟨result, _, word, Or.inl (startsType_iff.mpr ⟨_, _, rfl, goesOn⟩)⟩
  | afterQuestion =>
    obtain ⟨result, closes⟩ := exists_closes scope nested.2 (.unbounded .upper)
    exact ⟨result, _, spelled_closing frames, Or.inr ⟨closing_ne_nil nested.1, closes⟩⟩

/-! ### What the parser takes starts a sentence -/

theorem run_append (state : Stage × List Frame) (firsts lasts : List TypeLexeme) :
    run scope state (firsts ++ lasts) = run scope state firsts >>= (run scope · lasts) := by
  induction firsts generalizing state with
  | nil => rfl
  | cons lexeme rest inductionHypothesis =>
    rw [List.cons_append, run, run]
    cases step scope state lexeme.token with
    | none => rfl
    | some next => exact inductionHypothesis next

theorem wellNested_run {state last : Stage × List Frame} {lexemes : List TypeLexeme}
    (nested : WellNested state) (taken : run scope state lexemes = .ok last) :
    WellNested last := by
  induction lexemes generalizing state with
  | nil => exact Except.ok.inj taken ▸ nested
  | cons lexeme rest inductionHypothesis =>
    rw [run] at taken
    cases found : step scope state lexeme.token with
    | none =>
      rw [found] at taken
      cases taken
    | some next =>
      rw [found] at taken
      exact inductionHypothesis (wellNested_step nested found) taken

/-- What completes a state starts with the tokens that are taken, and completes the state behind
them. -/
theorem completes_append_iff {result : TypeExpr} {state last : Stage × List Frame}
    {lexemes : List TypeLexeme} (taken : run scope state lexemes = .ok last)
    (more : List TypeToken) :
    Completes scope result state (lexemes.map (·.token) ++ more) ↔
      Completes scope result last more := by
  induction lexemes generalizing state with
  | nil => rw [Except.ok.inj taken, List.map_nil, List.nil_append]
  | cons lexeme rest inductionHypothesis =>
    rw [run] at taken
    cases found : step scope state lexeme.token with
    | none =>
      rw [found] at taken
      cases taken
    | some next =>
      rw [found] at taken
      rw [List.map_cons, List.cons_append, completes_cons_iff, takes_of_step found]
      exact inductionHypothesis taken

/-- Tokens that are all taken start a sentence. -/
theorem viable_of_run {last : Stage × List Frame} {lexemes : List TypeLexeme}
    (spelled : TypeToken.Spelled (lexemes.map (·.token)))
    (taken : run scope (.start, []) lexemes = .ok last) : Viable (lexemes.map (·.token)) := by
  have start : WellNested (.start, []) := trivial
  obtain ⟨result, more, moreSpelled, completes⟩ :=
    exists_completion scope (wellNested_run start taken)
  rw [← completes_append_iff taken, completes_start_iff] at completes
  obtain ⟨derivation, same, -⟩ := completes
  exact ⟨more, TypeToken.spelled_append_iff.mpr ⟨spelled, moreSpelled⟩, derivation, same.symm⟩

/-- A token that is not taken starts no sentence with those before it. -/
theorem not_viable_of_step {last : Stage × List Frame} {firsts : List TypeLexeme}
    {token : TypeToken} (taken : run scope (.start, []) firsts = .ok last)
    (refused : step scope last token = none) :
    ¬ Viable (firsts.map (·.token) ++ [token]) := by
  rintro ⟨more, -, derivation, same⟩
  rw [List.append_assoc] at same
  have completes : Completes scope (derivation.denote scope) (.start, []) _ :=
    completes_start_iff.mpr ⟨derivation, same.symm, rfl⟩
  rw [completes_append_iff taken, List.singleton_append, completes_cons_iff] at completes
  obtain ⟨next, found, -⟩ := completes
  cases refused.symm.trans found

/-- The parser takes all tokens of a text, or it stops at the first one with which they start no
sentence. -/
theorem run_cases (scope : List String) (lexemes : List TypeLexeme)
    (spelled : TypeToken.Spelled (lexemes.map (·.token))) :
    (∃ last, run scope (.start, []) lexemes = .ok last ∧ Viable (lexemes.map (·.token))) ∨
      ∃ firsts lexeme lasts, lexemes = firsts ++ lexeme :: lasts ∧
        run scope (.start, []) lexemes = .error lexeme ∧ Viable (firsts.map (·.token)) ∧
          ¬ Viable (firsts.map (·.token) ++ [lexeme.token]) := by
  induction lexemes using List.reverseRecOn with
  | nil =>
    have taken : run scope (.start, []) [] = .ok (.start, []) := rfl
    exact Or.inl ⟨_, taken, viable_of_run spelled taken⟩
  | append_singleton firsts lexeme inductionHypothesis =>
    have whole := spelled
    rw [List.map_append, TypeToken.spelled_append_iff] at spelled
    rcases inductionHypothesis spelled.1 with ⟨last, taken, viable⟩ |
      ⟨earlier, stopped, later, rfl, refused, viable, stuck⟩
    · cases found : step scope last lexeme.token with
      | some next =>
        have taken : run scope (.start, []) (firsts ++ [lexeme]) = .ok next := by
          rw [run_append, taken]
          simp [bind, Except.bind, run, found]
        exact Or.inl ⟨next, taken, viable_of_run whole taken⟩
      | none =>
        refine Or.inr ⟨firsts, lexeme, [], rfl, ?_, viable, not_viable_of_step taken found⟩
        rw [run_append, taken]
        simp [bind, Except.bind, run, found]
    · refine Or.inr ⟨earlier, stopped, later ++ [lexeme], by simp, ?_, viable, stuck⟩
      rw [run_append, refused]
      rfl

/-- The parser stops at a token that starts no sentence with those before it, if these start
one. -/
theorem run_eq_error_of_stuck (scope : List String) {firsts : List TypeLexeme}
    (lexeme : TypeLexeme) (lasts : List TypeLexeme)
    (spelled : TypeToken.Spelled (firsts.map (·.token) ++ [lexeme.token]))
    (viable : Viable (firsts.map (·.token)))
    (stuck : ¬ Viable (firsts.map (·.token) ++ [lexeme.token])) :
    run scope (.start, []) (firsts ++ lexeme :: lasts) = .error lexeme := by
  have firstsSpelled := (TypeToken.spelled_append_iff.mp spelled).1
  rw [run_append]
  rcases run_cases scope firsts firstsSpelled with ⟨last, taken, -⟩ |
    ⟨earlier, stopped, later, rfl, -, -, earlierStuck⟩
  · rw [taken]
    show run scope last (lexeme :: lasts) = _
    rw [run]
    cases found : step scope last lexeme.token with
    | none => rfl
    | some next =>
      have takenToo : run scope (.start, []) (firsts ++ [lexeme]) = .ok next := by
        rw [run_append, taken]
        simp [bind, Except.bind, run, found]
      have whole : (firsts ++ [lexeme]).map (·.token) =
          firsts.map (·.token) ++ [lexeme.token] := by
        rw [List.map_append, List.map_singleton]
      exact absurd (whole ▸ viable_of_run (whole ▸ spelled) takenToo) stuck
  · rw [List.map_append, List.map_cons, List.append_cons] at viable
    exact absurd viable.of_append earlierStuck

end TypeParser

/-! ### What is wrong with a text -/

open TypeToken

/-- What is wrong with a text that is not read as a type, and how that is told. -/
inductive Refused (text : String) : TypeSyntaxError → Prop
  /-- The text is blank. -/
  | empty (blank : Text.isBlank text) : Refused text .empty
  /-- Otherwise the first stray character is told, whatever is wrong with the tokens before it. -/
  | stray {before : List Char} {char : Char} (stray : FirstStray text.toList before char) :
    Refused text (.unexpected (String.ofList [char]) (byteLength before) text)
  /-- Otherwise the first token is told that starts no sentence with those before it. -/
  | misplaced {left : List Char} {before after : List TypeToken} {token : TypeToken}
    (place : StandsAt text.toList left before token after) (viable : Viable before)
    (stuck : ¬ Viable (before ++ [token])) :
    Refused text (.unexpected token.text (byteLength left) text)
  /-- Otherwise the text ends too early: its tokens are no sentence, but a sentence goes on from
  them. -/
  | unfinished {tokens more : List TypeToken} (visible : ¬ Text.isBlank text)
    (splits : Splits text.toList tokens) (unfinished : ¬ Sentence tokens) (further : more ≠ [])
    (sentence : Sentence (tokens ++ more)) : Refused text (.unexpectedEnd text)

namespace TypeExpr

open TypeParser

variable {scope : List String} {text : String}

theorem isBlank_iff_splits : Text.isBlank text ↔ Splits text.toList [] := by
  rw [Text.isBlank, List.all_eq_true]
  constructor
  · intro blank
    generalize text.toList = chars at blank
    induction chars with
    | nil => exact .done
    | cons char rest inductionHypothesis =>
      rw [List.forall_mem_cons] at blank
      exact .blank blank.1 (inductionHypothesis blank.2)
  · intro splits
    generalize text.toList = chars, none : ([] : List TypeToken) = tokens at splits
    induction splits with
    | done => simp
    | blank white _ inductionHypothesis =>
      exact List.forall_mem_cons.mpr ⟨white, inductionHypothesis none⟩
    | mark => cases none
    | word => cases none

/-- What the parser gives for a text without stray characters that is not blank. -/
theorem parse_of_visible {lexemes : List TypeLexeme} (scanned : scan 0 text.toList = .ok lexemes)
    (visible : ¬ Text.isBlank text) :
    parse scope text =
      match run scope (.start, []) lexemes with
      | .error lexeme => .error (.unexpected lexeme.token.text lexeme.offset text)
      | .ok state =>
        match TypeParser.result scope state with
        | some type => .ok type
        | none => .error (.unexpectedEnd text) := by
  have nonempty : lexemes ≠ [] := by
    rintro rfl
    exact visible (isBlank_iff_splits.mpr (splits_of_scan scanned))
  exact (parse_of_scan scanned).trans (if_neg nonempty)

/-- A run that takes all tokens has a result exactly if they are a sentence. -/
theorem exists_result_iff {lexemes : List TypeLexeme} {last : Stage × List Frame}
    (spelled : Spelled (lexemes.map (·.token)))
    (taken : run scope (.start, []) lexemes = .ok last) :
    (∃ type, TypeParser.result scope last = some type) ↔ Sentence (lexemes.map (·.token)) := by
  constructor
  · rintro ⟨type, found⟩
    obtain ⟨derivation, same, -⟩ := (exists_run_start_iff lexemes).mp ⟨last, taken, found⟩
    exact ⟨spelled, derivation, same.symm⟩
  · rintro ⟨-, derivation, same⟩
    obtain ⟨other, takenAgain, found⟩ : ∃ last, run scope (.start, []) lexemes = .ok last ∧
        TypeParser.result scope last = some (derivation.denote scope) :=
      (exists_run_start_iff lexemes).mpr ⟨derivation, same.symm, rfl⟩
    cases taken.symm.trans takenAgain
    exact ⟨_, found⟩

/-- What the parser tells about a text is wrong with it. -/
theorem refused_of_parse {error : TypeSyntaxError} (refused : parse scope text = .error error) :
    Refused text error := by
  cases scanned : scan 0 text.toList with
  | error failure =>
    obtain ⟨position, char⟩ := failure
    rw [parse, scanned] at refused
    cases refused
    obtain ⟨before, stray, same⟩ := (stopsAtStray_scan 0 text.toList _ _).mp scanned
    rw [same, Nat.zero_add]
    exact .stray stray
  | ok lexemes =>
    have splits := splits_of_scan scanned
    have spelled := spelled_of_splits splits
    by_cases blank : Text.isBlank text
    · obtain rfl : lexemes = [] :=
        List.map_eq_nil_iff.mp (splits.unique (isBlank_iff_splits.mp blank))
      rw [parse, scanned] at refused
      cases refused
      exact .empty blank
    · rw [parse_of_visible scanned blank] at refused
      rcases run_cases scope lexemes spelled with ⟨last, taken, more, sentence⟩ |
        ⟨firsts, lexeme, lasts, rfl, stopped, viable, stuck⟩
      · rw [taken] at refused
        dsimp only at refused
        cases found : TypeParser.result scope last with
        | some type =>
          rw [found] at refused
          cases refused
        | none =>
          rw [found] at refused
          cases refused
          have unfinished : ¬ Sentence (lexemes.map (·.token)) := by
            rw [← exists_result_iff spelled taken, found]
            simp
          refine .unfinished blank splits unfinished ?_ sentence
          rintro rfl
          exact unfinished (by rwa [List.append_nil] at sentence)
      · rw [stopped] at refused
        cases refused
        obtain ⟨left, offset, place⟩ := exists_standsAt_of_scan scanned
        rw [offset, Nat.zero_add]
        exact .misplaced place viable stuck

/-- What is wrong with a text is told by the parser. -/
theorem parse_of_refused (scope : List String) {error : TypeSyntaxError}
    (refused : Refused text error) : parse scope text = .error error := by
  cases refused with
  | empty blank =>
    obtain ⟨lexemes, scanned, none⟩ := (isBlank_iff_splits.mp blank).scan 0
    obtain rfl := List.map_eq_nil_iff.mp none
    rw [parse_of_scan scanned, if_pos rfl]
  | @stray before char stray =>
    have scanned := (stopsAtStray_scan 0 text.toList _ _).mpr ⟨before, stray, rfl⟩
    rw [Nat.zero_add] at scanned
    rw [parse, scanned]
  | @misplaced left before after token place viable stuck =>
    obtain ⟨firsts, lasts, scanned, rfl, rfl⟩ := place.scan 0
    rw [Nat.zero_add] at scanned
    have spelled := spelled_of_splits place.splits
    rw [List.append_cons, spelled_append_iff] at spelled
    have stopped :=
      run_eq_error_of_stuck scope ⟨byteLength left, token⟩ lasts spelled.1 viable stuck
    rw [parse_of_scan scanned, if_neg (by simp), stopped]
  | @unfinished tokens more visible splits unfinished further sentence =>
    obtain ⟨lexemes, scanned, rfl⟩ := splits.scan 0
    have spelled := spelled_of_splits splits
    rw [parse_of_visible scanned visible]
    rcases run_cases scope lexemes spelled with ⟨last, taken, -⟩ |
      ⟨firsts, lexeme, lasts, rfl, -, -, stuck⟩
    · rw [taken]
      dsimp only
      cases found : TypeParser.result scope last with
      | none => rfl
      | some type => exact absurd ((exists_result_iff spelled taken).mp ⟨type, found⟩) unfinished
    · rw [List.map_append, List.map_cons, List.append_cons] at sentence
      have viable : Viable (firsts.map (·.token) ++ [lexeme.token] ++ lasts.map (·.token)) :=
        ⟨more, sentence⟩
      exact absurd viable.of_append stuck

/-! ### What is pointed at -/

theorem byteLength_eq (chars : List Char) :
    byteLength chars = (String.ofList chars).utf8ByteSize := by
  induction chars with
  | nil => rfl
  | cons char rest inductionHypothesis =>
    rw [byteLength, inductionHypothesis, String.ofList_cons, String.utf8ByteSize_append]
    simp

/-- What stands in a text stands behind as many bytes as there are in front of it. -/
theorem exists_around_of_prefix {left : List Char} {found : String}
    (stands : left ++ found.toList <+: text.toList) (nonempty : found ≠ "") :
    byteLength left < text.utf8ByteSize ∧
      ∃ before after, text = before ++ found ++ after ∧ before.utf8ByteSize = byteLength left := by
  obtain ⟨rest, whole⟩ := stands
  have around : text = String.ofList left ++ found ++ String.ofList rest := by
    rw [← String.toList_inj, ← whole, String.toList_append, String.toList_append,
      String.toList_ofList, String.toList_ofList]
  have positive : found.utf8ByteSize ≠ 0 := mt String.utf8ByteSize_eq_zero_iff.mp nonempty
  refine ⟨?_, String.ofList left, String.ofList rest, around, (byteLength_eq left).symm⟩
  rw [around, String.utf8ByteSize_append, String.utf8ByteSize_append, byteLength_eq]
  omega

theorem exists_around_of_refused {found input : String} {offset : Nat}
    (refused : Refused text (.unexpected found offset input)) :
    input = text ∧ offset < text.utf8ByteSize ∧
      ∃ before after, text = before ++ found ++ after ∧ before.utf8ByteSize = offset := by
  cases refused with
  | @stray before char stray =>
    refine ⟨rfl, exists_around_of_prefix ?_ (by simp)⟩
    rw [String.toList_ofList]
    exact stray.stands
  | @misplaced left before after token place =>
    obtain ⟨first, others, spelled, -⟩ :=
      exists_first_of_splits place.splits token (by simp)
    refine ⟨rfl, exists_around_of_prefix place.goesOn ?_⟩
    rintro empty
    rw [empty] at spelled
    cases spelled

/-! ### The errors of the parser -/

/-- What the errors of the parser tell about a text. -/
structure RefusesExactly (scope : List String) (text : String) : Prop where
  /-- The error is what is wrong with the text, and there is none if nothing is. -/
  errors : ∀ error, parse scope text = .error error ↔ Refused text error
  /-- What an error points at stands in the text behind as many bytes as the error says. -/
  places : ∀ found offset input, parse scope text = .error (.unexpected found offset input) →
    input = text ∧ offset < text.utf8ByteSize ∧
      ∃ before after, text = before ++ found ++ after ∧ before.utf8ByteSize = offset

/-- The parser refuses a text for the first thing that is wrong with it, and for nothing else. -/
theorem refusesExactly_parse (scope : List String) (text : String) :
    RefusesExactly scope text where
  errors _ := ⟨refused_of_parse, parse_of_refused scope⟩
  places _ _ _ refused := exists_around_of_refused (refused_of_parse refused)

/-- A stray character goes before a token that is misplaced earlier. -/
example : parse [] "Map<é,> 1" = .error (.unexpected "1" 9 "Map<é,> 1") ∧
    parse [] "Map<é,> a1" = .error (.unexpected ">" 7 "Map<é,> a1") := by
  constructor
  · decide +kernel
  · decide +kernel

end TypeExpr

end ValueGen
