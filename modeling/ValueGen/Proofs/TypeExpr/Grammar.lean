/-
This file holds the grammar of types. A type is a dotted name, perhaps with arguments between angle
brackets, and then any number of bracket pairs:

    Type ::= Name ['<' Arg {',' Arg} '>'] {'[' ']'}
    Name ::= Ident {'.' Ident}
    Arg  ::= Type | '?' | '?' 'extends' Type | '?' 'super' Type

A derivation is a tree with the tokens of the derived sentence at its leaves, and it denotes a type.
No sentence has two derivations, since what stands behind a type or an argument can never belong
to it.
-/

import ValueGen.TypeExpr.Basic
import ValueGen.TypeExpr.Token

namespace ValueGen

/-! ### Derivations -/

/-- A derivation of a name: `Name ::= Ident {'.' Ident}`. -/
structure DottedName where
  first : String
  others : List String
  deriving DecidableEq, Repr

mutual

/-- A derivation of a type: `Type ::= Name ['<' Arg {',' Arg} '>'] {'[' ']'}`. Without arguments
there are no angle brackets. -/
inductive TypeDerivation
  | type (name : DottedName) (arguments : List ArgumentDerivation) (dimensions : Nat)

/-- A derivation of an argument: `Arg ::= Type | '?' | '?' 'extends' Type | '?' 'super' Type`. -/
inductive ArgumentDerivation
  | type (type : TypeDerivation)
  | wildcard
  | bounded (variance : Variance) (bound : TypeDerivation)

end

/-- The word that stands before a bound. -/
def Variance.word : Variance → String
  | upper => "extends"
  | lower => "super"

/-! ### The derived sentences -/

namespace DottedName

/-- The tokens of words that go on a name. -/
def dotted : List String → List TypeToken
  | [] => []
  | word :: rest => .dot :: .identifier word :: dotted rest

/-- The tokens of a name. -/
def tokens (name : DottedName) : List TypeToken := .identifier name.first :: dotted name.others

/-- The whole dotted text of a name. -/
def text (name : DottedName) : String := ".".intercalate (name.first :: name.others)

end DottedName

/-- The tokens of bracket pairs. -/
def bracketPairs : Nat → List TypeToken
  | 0 => []
  | count + 1 => .openBracket :: .closeBracket :: bracketPairs count

mutual

/-- The tokens of a type. -/
def TypeDerivation.tokens : TypeDerivation → List TypeToken
  | .type name [] dimensions => name.tokens ++ bracketPairs dimensions
  | .type name (first :: others) dimensions =>
    name.tokens ++ .less ::
      (first.tokens ++ (furtherTokens others ++ .greater :: bracketPairs dimensions))

/-- The tokens of an argument. -/
def ArgumentDerivation.tokens : ArgumentDerivation → List TypeToken
  | .type type => type.tokens
  | .wildcard => [.question]
  | .bounded variance bound => .question :: .identifier variance.word :: bound.tokens

/-- The tokens of further arguments, with a comma before each. -/
def furtherTokens : List ArgumentDerivation → List TypeToken
  | [] => []
  | argument :: rest => .comma :: (argument.tokens ++ furtherTokens rest)

end

/-! ### The denoted types -/

/-- The type that a name denotes: a type variable if the scope lists the whole name. -/
def DottedName.denote (scope : List String) (name : DottedName) : TypeExpr :=
  if name.text ∈ scope then .typeVariable name.text [] else .named name.text

/-- The array type of several dimensions. -/
def arrayOf : Nat → TypeExpr → TypeExpr
  | 0, type => type
  | dimensions + 1, type => arrayOf dimensions (.array type)

mutual

/-- The type that a derivation denotes. -/
def TypeDerivation.denote (scope : List String) : TypeDerivation → TypeExpr
  | .type name [] dimensions => arrayOf dimensions (name.denote scope)
  | .type name (first :: others) dimensions =>
    arrayOf dimensions
      (.parameterized (name.denote scope) (first.denote scope :: denoteAll scope others))

/-- The argument that a derivation denotes. -/
def ArgumentDerivation.denote (scope : List String) : ArgumentDerivation → TypeExpr
  | .type type => type.denote scope
  | .wildcard => .unbounded .upper
  | .bounded variance bound => .bounded variance (bound.denote scope)

/-- The arguments that some derivations denote. -/
def denoteAll (scope : List String) : List ArgumentDerivation → List TypeExpr
  | [] => []
  | argument :: rest => argument.denote scope :: denoteAll scope rest

end

/-! ### No sentence has two derivations -/

/-- Whether a sentence starts with nothing that could go on a type: it ends, or the next argument or
the end of the arguments follows. -/
def EndsType : List TypeToken → Prop
  | [] | .comma :: _ | .greater :: _ => True
  | _ => False

theorem EndsType.furtherTokens (arguments : List ArgumentDerivation) (rest : List TypeToken) :
    EndsType (furtherTokens arguments ++ .greater :: rest) := by
  cases arguments with
  | nil => trivial
  | cons argument others => trivial

theorem Variance.word_injective {first second : Variance} (same : first.word = second.word) :
    first = second := by
  cases first <;> cases second <;> first | rfl | exact absurd same (by decide)

/-- Behind a name or arguments only bracket pairs and the end of the type follow. -/
theorem head?_bracketPairs_append {rest : List TypeToken} (ends : EndsType rest) (count : Nat) :
    (bracketPairs count ++ rest).head? ≠ some .dot ∧
      (bracketPairs count ++ rest).head? ≠ some .less := by
  cases count with
  | zero =>
    change rest.head? ≠ _ ∧ rest.head? ≠ _
    constructor
    all_goals
      rintro first
      obtain ⟨later, rfl⟩ := List.head?_eq_some_iff.mp first
      exact ends
  | succ count => exact ⟨by simp [bracketPairs], by simp [bracketPairs]⟩

theorem dotted_cancel {first second : List String} {rest other : List TypeToken}
    (stops : rest.head? ≠ some .dot) (otherStops : other.head? ≠ some .dot)
    (same : DottedName.dotted first ++ rest = DottedName.dotted second ++ other) :
    first = second ∧ rest = other := by
  induction first generalizing second with
  | nil =>
    cases second with
    | nil => exact ⟨rfl, same⟩
    | cons word words => exact absurd (congrArg List.head? same) stops
  | cons word words inductionHypothesis =>
    cases second with
    | nil => exact absurd (congrArg List.head? same.symm) otherStops
    | cons otherWord otherWords =>
      injection same with _ same
      injection same with sameWord same
      injection sameWord with sameWord
      obtain ⟨sameWords, sameRest⟩ := inductionHypothesis same
      exact ⟨by rw [sameWord, sameWords], sameRest⟩

theorem bracketPairs_cancel {first second : Nat} {rest other : List TypeToken}
    (ends : EndsType rest) (otherEnds : EndsType other)
    (same : bracketPairs first ++ rest = bracketPairs second ++ other) :
    first = second ∧ rest = other := by
  induction first generalizing second with
  | zero =>
    cases second with
    | zero => exact ⟨rfl, same⟩
    | succ count =>
      change rest = _ at same
      rw [same] at ends
      exact ends.elim
  | succ count inductionHypothesis =>
    cases second with
    | zero =>
      change _ = other at same
      rw [← same] at otherEnds
      exact otherEnds.elim
    | succ otherCount =>
      injection same with _ same
      injection same with _ same
      obtain ⟨sameCount, sameRest⟩ := inductionHypothesis same
      exact ⟨by rw [sameCount], sameRest⟩

theorem DottedName.cancel {first second : DottedName} {rest other : List TypeToken}
    (stops : rest.head? ≠ some .dot) (otherStops : other.head? ≠ some .dot)
    (same : first.tokens ++ rest = second.tokens ++ other) : first = second ∧ rest = other := by
  obtain ⟨word, words⟩ := first
  obtain ⟨otherWord, otherWords⟩ := second
  injection same with sameFirst behind
  obtain rfl : word = otherWord := TypeToken.identifier.inj sameFirst
  obtain ⟨sameOthers, sameRest⟩ := dotted_cancel stops otherStops behind
  obtain rfl : words = otherWords := sameOthers
  exact ⟨rfl, sameRest⟩

/-- A type starts with an identifier. -/
theorem TypeDerivation.exists_identifier (derivation : TypeDerivation) :
    ∃ word rest, derivation.tokens = .identifier word :: rest := by
  match derivation with
  | .type name [] dimensions => exact ⟨_, _, rfl⟩
  | .type name (first :: others) dimensions => exact ⟨_, _, rfl⟩

/-- No type starts with a question mark. -/
theorem TypeDerivation.ne_question (derivation : TypeDerivation) (rest other : List TypeToken) :
    derivation.tokens ++ rest ≠ .question :: other := by
  obtain ⟨word, later, starts⟩ := derivation.exists_identifier
  rw [starts]
  exact fun same => by cases same

mutual

/-- Where two types, each with what follows it, have the same tokens, the types have the same
derivation. -/
theorem TypeDerivation.cancel : (first second : TypeDerivation) → {rest other : List TypeToken} →
    EndsType rest → EndsType other → first.tokens ++ rest = second.tokens ++ other →
    first = second ∧ rest = other
  | .type name [] dimensions, .type otherName [] otherDimensions, rest, other, ends, otherEnds,
      same => by
    simp only [TypeDerivation.tokens, List.append_assoc] at same
    obtain ⟨rfl, behindName⟩ := DottedName.cancel (head?_bracketPairs_append ends _).1
      (head?_bracketPairs_append otherEnds _).1 same
    obtain ⟨rfl, behind⟩ := bracketPairs_cancel ends otherEnds behindName
    exact ⟨rfl, behind⟩
  | .type name [] dimensions, .type otherName (otherFirst :: others) otherDimensions, rest, other,
      ends, otherEnds, same => by
    simp only [TypeDerivation.tokens, List.append_assoc] at same
    obtain ⟨-, behindName⟩ :=
      DottedName.cancel (head?_bracketPairs_append ends _).1 (by simp) same
    exact absurd (congrArg List.head? behindName) (head?_bracketPairs_append ends _).2
  | .type name (first :: further) dimensions, .type otherName [] otherDimensions, rest, other,
      ends, otherEnds, same => by
    simp only [TypeDerivation.tokens, List.append_assoc] at same
    obtain ⟨-, behindName⟩ :=
      DottedName.cancel (by simp) (head?_bracketPairs_append otherEnds _).1 same
    exact absurd (congrArg List.head? behindName.symm) (head?_bracketPairs_append otherEnds _).2
  | .type name (first :: further) dimensions, .type otherName (otherFirst :: others)
      otherDimensions, rest, other, ends, otherEnds, same => by
    simp only [TypeDerivation.tokens, List.append_assoc, List.cons_append] at same
    obtain ⟨rfl, behindName⟩ := DottedName.cancel (by simp) (by simp) same
    injection behindName with _ inside
    obtain ⟨rfl, behindFirst⟩ :=
      first.cancel otherFirst (.furtherTokens _ _) (.furtherTokens _ _) inside
    obtain ⟨rfl, behindAll⟩ := furtherTokens_cancel further others behindFirst
    obtain ⟨rfl, behind⟩ := bracketPairs_cancel ends otherEnds behindAll
    exact ⟨rfl, behind⟩

/-- Where two arguments, each with what follows it, have the same tokens, the arguments have the
same derivation. -/
theorem ArgumentDerivation.cancel : (first second : ArgumentDerivation) →
    {rest other : List TypeToken} → EndsType rest → EndsType other →
    first.tokens ++ rest = second.tokens ++ other → first = second ∧ rest = other
  | .type type, .type otherType, rest, other, ends, otherEnds, same => by
    obtain ⟨rfl, behind⟩ := type.cancel otherType ends otherEnds same
    exact ⟨rfl, behind⟩
  | .wildcard, .wildcard, rest, other, _, _, same => ⟨rfl, List.tail_eq_of_cons_eq same⟩
  | .bounded variance bound, .bounded otherVariance otherBound, rest, other, ends, otherEnds,
      same => by
    injection same with _ behindMark
    injection behindMark with sameWord behindWord
    obtain rfl := Variance.word_injective (TypeToken.identifier.inj sameWord)
    obtain ⟨rfl, behind⟩ := bound.cancel otherBound ends otherEnds behindWord
    exact ⟨rfl, behind⟩
  -- a word behind a question mark belongs to the wildcard
  | .wildcard, .bounded _ _, rest, other, ends, _, same => by
    obtain rfl := List.tail_eq_of_cons_eq same
    exact ends.elim
  | .bounded _ _, .wildcard, rest, other, _, otherEnds, same => by
    obtain rfl := List.tail_eq_of_cons_eq same
    exact otherEnds.elim
  | .type type, .wildcard, rest, other, _, _, same => absurd same (type.ne_question _ _)
  | .type type, .bounded _ _, rest, other, _, _, same => absurd same (type.ne_question _ _)
  | .wildcard, .type type, rest, other, _, _, same => absurd same.symm (type.ne_question _ _)
  | .bounded _ _, .type type, rest, other, _, _, same => absurd same.symm (type.ne_question _ _)

theorem furtherTokens_cancel : (first second : List ArgumentDerivation) →
    {rest other : List TypeToken} →
    furtherTokens first ++ .greater :: rest = furtherTokens second ++ .greater :: other →
    first = second ∧ rest = other
  | [], [], rest, other, same => ⟨rfl, List.tail_eq_of_cons_eq same⟩
  | [], _ :: _, rest, other, same => by cases same
  | _ :: _, [], rest, other, same => by cases same
  | first :: others, second :: further, rest, other, same => by
    simp only [furtherTokens, List.append_assoc, List.cons_append] at same
    injection same with _ behindComma
    obtain ⟨rfl, behindFirst⟩ :=
      first.cancel second (.furtherTokens _ _) (.furtherTokens _ _) behindComma
    obtain ⟨rfl, behind⟩ := furtherTokens_cancel others further behindFirst
    exact ⟨rfl, behind⟩

end

/-- No sentence has two derivations. -/
theorem TypeDerivation.tokens_injective {first second : TypeDerivation}
    (same : first.tokens = second.tokens) : first = second :=
  (@TypeDerivation.cancel first second [] [] trivial trivial (by rw [same])).1

end ValueGen
