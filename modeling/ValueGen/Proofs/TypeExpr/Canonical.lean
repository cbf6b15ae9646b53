/-
This file says which types the parser can give, and that their written form in use is read back as
the same type. Such a type is built from dotted names, of which exactly those in scope are type
variables; only names have arguments, and wildcards are nothing but arguments. Both ways go through
derivations: what a derivation of identifiers denotes has this form, every type of this form is
denoted by one, and the written form of what it denotes splits into its tokens.
-/

import ValueGen.Proofs.TypeExpr.Parsing

namespace ValueGen

open TypeToken

/-! ### Types that can be read -/

/-- Whether the words of a name are identifiers. -/
def DottedName.Spelled (name : DottedName) : Prop :=
  ∀ word ∈ name.first :: name.others, IsIdentifier word

namespace TypeExpr

/-- Whether a type is a name or a type variable. -/
def IsLeaf : TypeExpr → Prop
  | named _ | typeVariable _ _ => True
  | _ => False

mutual

/-- A type as the parser gives it for a scope. -/
inductive Canonical (scope : List String) : TypeExpr → Prop
  /-- A name that the scope does not list. -/
  | named {name : DottedName} (spelled : name.Spelled) (unlisted : name.text ∉ scope) :
    Canonical scope (named name.text)
  /-- A name that the scope lists; it has no bounds. -/
  | typeVariable {name : DottedName} (spelled : name.Spelled) (listed : name.text ∈ scope) :
    Canonical scope (typeVariable name.text [])
  /-- A name with at least one argument. -/
  | parameterized {raw : TypeExpr} {arguments : List TypeExpr} (leaf : raw.IsLeaf)
    (canonical : Canonical scope raw) (nonempty : arguments ≠ [])
    (each : ∀ argument ∈ arguments, CanonicalArgument scope argument) :
    Canonical scope (parameterized raw arguments)
  /-- An array of anything but wildcards. -/
  | array {element : TypeExpr} (canonical : Canonical scope element) :
    Canonical scope (array element)

/-- An argument as the parser gives it for a scope. -/
inductive CanonicalArgument (scope : List String) : TypeExpr → Prop
  | type {type : TypeExpr} (canonical : Canonical scope type) : CanonicalArgument scope type
  /-- A wildcard without a bound, which is an upper one. -/
  | unbounded : CanonicalArgument scope (unbounded .upper)
  /-- A wildcard whose bound is no wildcard. -/
  | bounded {variance : Variance} {bound : TypeExpr} (canonical : Canonical scope bound) :
    CanonicalArgument scope (bounded variance bound)

end

end TypeExpr

open TypeExpr

/-! ### Tokens that are spelled right -/

namespace TypeToken

/-- Whether the words among some tokens are identifiers. -/
def Spelled (tokens : List TypeToken) : Prop := ∀ text, identifier text ∈ tokens → IsIdentifier text

theorem spelled_nil : Spelled [] := fun _ impossible => (by cases impossible)

theorem spelled_append_iff {first second : List TypeToken} :
    Spelled (first ++ second) ↔ Spelled first ∧ Spelled second := by
  simp only [Spelled, List.mem_append, or_imp, forall_and]

theorem spelled_identifier_iff {text : String} {rest : List TypeToken} :
    Spelled (identifier text :: rest) ↔ IsIdentifier text ∧ Spelled rest := by
  simp [Spelled]

theorem spelled_mark_iff {token : TypeToken} (isMark : token ∈ marks) {rest : List TypeToken} :
    Spelled (token :: rest) ↔ Spelled rest := by
  have noWord : ∀ text, identifier text ≠ token := by
    rintro text rfl
    simp [marks] at isMark
  simp [Spelled, noWord]

theorem spelled_of_splits {chars : List Char} {tokens : List TypeToken}
    (splits : Splits chars tokens) : Spelled tokens := by
  induction splits with
  | done => exact spelled_nil
  | blank _ _ inductionHypothesis => exact inductionHypothesis
  | mark isMark _ inductionHypothesis => exact (spelled_mark_iff isMark).mpr inductionHypothesis
  | word isIdentifier _ _ inductionHypothesis =>
    exact spelled_identifier_iff.mpr ⟨isIdentifier, inductionHypothesis⟩

end TypeToken

theorem spelled_dotted_iff {words : List String} :
    Spelled (DottedName.dotted words) ↔ ∀ word ∈ words, IsIdentifier word := by
  induction words with
  | nil => exact iff_of_true spelled_nil (by simp)
  | cons word rest inductionHypothesis =>
    rw [DottedName.dotted, spelled_mark_iff (by decide), spelled_identifier_iff,
      inductionHypothesis, List.forall_mem_cons]

theorem spelled_bracketPairs (count : Nat) : Spelled (bracketPairs count) := by
  induction count with
  | zero => exact spelled_nil
  | succ count inductionHypothesis =>
    rw [bracketPairs, spelled_mark_iff (by decide), spelled_mark_iff (by decide)]
    exact inductionHypothesis

theorem spelled_furtherTokens_iff {arguments : List ArgumentDerivation} :
    Spelled (furtherTokens arguments) ↔ ∀ argument ∈ arguments, Spelled argument.tokens := by
  induction arguments with
  | nil => exact iff_of_true spelled_nil (by simp)
  | cons argument rest inductionHypothesis =>
    rw [furtherTokens, spelled_mark_iff (by decide), spelled_append_iff, inductionHypothesis,
      List.forall_mem_cons]

theorem spelled_enclosed_iff {arguments : List ArgumentDerivation} :
    Spelled (TypeParser.enclosed arguments) ↔ ∀ argument ∈ arguments, Spelled argument.tokens := by
  cases arguments with
  | nil => exact iff_of_true spelled_nil (by simp)
  | cons first others =>
    have closing : Spelled [.greater] := (spelled_mark_iff (by decide)).mpr spelled_nil
    rw [TypeParser.enclosed, spelled_mark_iff (by decide), spelled_append_iff, spelled_append_iff,
      spelled_furtherTokens_iff, List.forall_mem_cons, and_iff_left closing]

/-- A type is spelled right if its name and its arguments are. -/
theorem spelled_type_iff {name : DottedName} {arguments : List ArgumentDerivation}
    {dimensions : Nat} :
    Spelled (TypeDerivation.type name arguments dimensions).tokens ↔
      name.Spelled ∧ ∀ argument ∈ arguments, Spelled argument.tokens := by
  rw [TypeParser.tokens_type, spelled_identifier_iff, spelled_append_iff, spelled_append_iff,
    spelled_dotted_iff, spelled_enclosed_iff, and_iff_left (spelled_bracketPairs dimensions),
    DottedName.Spelled, List.forall_mem_cons, and_assoc]

theorem isIdentifier_word (variance : Variance) : IsIdentifier variance.word := by
  cases variance with
  | upper =>
    exact ⟨'e', "xtends".toList, rfl, by decide +kernel, List.all_eq_true.mp (by decide +kernel)⟩
  | lower =>
    exact ⟨'s', "uper".toList, rfl, by decide +kernel, List.all_eq_true.mp (by decide +kernel)⟩

/-! ### What the parser gives -/

section Denoted

variable {scope : List String}

theorem canonical_arrayOf {type : TypeExpr} (canonical : Canonical scope type) (dimensions : Nat) :
    Canonical scope (arrayOf dimensions type) := by
  induction dimensions generalizing type with
  | zero => exact canonical
  | succ dimensions inductionHypothesis => exact inductionHypothesis (.array canonical)

theorem isLeaf_denote (scope : List String) (name : DottedName) : (name.denote scope).IsLeaf := by
  unfold DottedName.denote
  split <;> trivial

theorem canonical_denote_name {name : DottedName} (spelled : name.Spelled) :
    Canonical scope (name.denote scope) := by
  unfold DottedName.denote
  split
  · exact .typeVariable spelled ‹_›
  · exact .named spelled ‹_›

mutual

/-- What a derivation of identifiers denotes can be read. -/
theorem canonical_denote : (derivation : TypeDerivation) → Spelled derivation.tokens →
    Canonical scope (derivation.denote scope)
  | .type name [] dimensions, spelled =>
    canonical_arrayOf (canonical_denote_name (spelled_type_iff.mp spelled).1) dimensions
  | .type name (first :: others) dimensions, spelled => by
    obtain ⟨spelledName, spelledArguments⟩ := spelled_type_iff.mp spelled
    rw [List.forall_mem_cons] at spelledArguments
    refine canonical_arrayOf (.parameterized (isLeaf_denote scope name)
      (canonical_denote_name spelledName) (List.cons_ne_nil _ _) ?_) dimensions
    rw [List.forall_mem_cons]
    exact ⟨canonicalArgument_denote first spelledArguments.1,
      canonicalArgument_denoteAll others spelledArguments.2⟩

theorem canonicalArgument_denote : (argument : ArgumentDerivation) → Spelled argument.tokens →
    CanonicalArgument scope (argument.denote scope)
  | .type derivation, spelled => .type (canonical_denote derivation spelled)
  | .wildcard, _ => .unbounded
  | .bounded variance bound, spelled => by
    rw [ArgumentDerivation.tokens, spelled_mark_iff (by decide), spelled_identifier_iff] at spelled
    exact .bounded (canonical_denote bound spelled.2)

theorem canonicalArgument_denoteAll : (arguments : List ArgumentDerivation) →
    (∀ argument ∈ arguments, Spelled argument.tokens) →
    ∀ argument ∈ denoteAll scope arguments, CanonicalArgument scope argument
  | [], _ => by simp [denoteAll]
  | first :: others, spelled => by
    rw [List.forall_mem_cons] at spelled
    rw [denoteAll, List.forall_mem_cons]
    exact ⟨canonicalArgument_denote first spelled.1, canonicalArgument_denoteAll others spelled.2⟩

end

end Denoted

/-! ### Every canonical type is denoted -/

theorem array_arrayOf (dimensions : Nat) (type : TypeExpr) :
    TypeExpr.array (arrayOf dimensions type) = arrayOf dimensions (.array type) := by
  induction dimensions generalizing type with
  | zero => rfl
  | succ dimensions inductionHypothesis => exact inductionHypothesis (.array type)

section Denotes

variable {scope : List String}

theorem denote_of_listed {name : DottedName} (listed : name.text ∈ scope) :
    name.denote scope = .typeVariable name.text [] := if_pos listed

theorem denote_of_unlisted {name : DottedName} (unlisted : name.text ∉ scope) :
    name.denote scope = .named name.text := if_neg unlisted

/-- A canonical type without arguments is denoted by its name. -/
theorem exists_name_of_isLeaf {raw : TypeExpr} (leaf : raw.IsLeaf)
    (canonical : Canonical scope raw) :
    ∃ name : DottedName, name.Spelled ∧ name.denote scope = raw := by
  cases canonical with
  | named spelled unlisted => exact ⟨_, spelled, denote_of_unlisted unlisted⟩
  | typeVariable spelled listed => exact ⟨_, spelled, denote_of_listed listed⟩
  | parameterized _ _ _ _ => exact leaf.elim
  | array _ => exact leaf.elim

/-- Arguments that are denoted one by one are denoted together. -/
theorem exists_denoteAll {arguments : List TypeExpr}
    (each : ∀ argument ∈ arguments, ∃ derivation : ArgumentDerivation,
      Spelled derivation.tokens ∧ derivation.denote scope = argument) :
    ∃ derivations : List ArgumentDerivation,
      (∀ derivation ∈ derivations, Spelled derivation.tokens) ∧
        denoteAll scope derivations = arguments := by
  induction arguments with
  | nil => exact ⟨[], by simp, rfl⟩
  | cons argument rest inductionHypothesis =>
    rw [List.forall_mem_cons] at each
    obtain ⟨⟨derivation, spelled, denoted⟩, others⟩ := each
    obtain ⟨derivations, allSpelled, allDenoted⟩ := inductionHypothesis others
    refine ⟨derivation :: derivations, ?_, ?_⟩
    · rw [List.forall_mem_cons]
      exact ⟨spelled, allSpelled⟩
    · rw [denoteAll, denoted, allDenoted]

theorem denote_generic {name : DottedName} {arguments : List ArgumentDerivation}
    (nonempty : denoteAll scope arguments ≠ []) :
    (TypeDerivation.type name arguments 0).denote scope =
      .parameterized (name.denote scope) (denoteAll scope arguments) := by
  cases arguments with
  | nil => exact absurd rfl nonempty
  | cons first others => rfl

mutual

/-- A canonical type is what some derivation of identifiers denotes. -/
theorem exists_derivation : {type : TypeExpr} → Canonical scope type →
    ∃ derivation : TypeDerivation, Spelled derivation.tokens ∧ derivation.denote scope = type
  | _, @Canonical.named _ name spelled unlisted => by
    refine ⟨.type name [] 0, spelled_type_iff.mpr ⟨spelled, by simp⟩, ?_⟩
    exact denote_of_unlisted unlisted
  | _, @Canonical.typeVariable _ name spelled listed => by
    refine ⟨.type name [] 0, spelled_type_iff.mpr ⟨spelled, by simp⟩, ?_⟩
    exact denote_of_listed listed
  | _, .parameterized leaf canonical nonempty each => by
    obtain ⟨name, spelled, rfl⟩ := exists_name_of_isLeaf leaf canonical
    obtain ⟨arguments, allSpelled, rfl⟩ := exists_denoteAll fun argument member =>
      exists_argumentDerivation (each argument member)
    exact ⟨.type name arguments 0, spelled_type_iff.mpr ⟨spelled, allSpelled⟩,
      denote_generic nonempty⟩
  | _, .array canonical => by
    obtain ⟨⟨name, arguments, dimensions⟩, spelled, rfl⟩ := exists_derivation canonical
    refine ⟨.type name arguments (dimensions + 1),
      spelled_type_iff.mpr (spelled_type_iff.mp spelled), ?_⟩
    rw [TypeParser.denote_type, TypeParser.denote_type, array_arrayOf, arrayOf]

theorem exists_argumentDerivation : {argument : TypeExpr} → CanonicalArgument scope argument →
    ∃ derivation : ArgumentDerivation,
      Spelled derivation.tokens ∧ derivation.denote scope = argument
  | _, .type canonical => by
    obtain ⟨derivation, spelled, denoted⟩ := exists_derivation canonical
    exact ⟨.type derivation, spelled, denoted⟩
  | _, .unbounded => ⟨.wildcard, (spelled_mark_iff (by decide)).mpr spelled_nil, rfl⟩
  | _, @CanonicalArgument.bounded _ variance _ canonical => by
    obtain ⟨derivation, spelled, rfl⟩ := exists_derivation canonical
    refine ⟨.bounded variance derivation, ?_, rfl⟩
    rw [ArgumentDerivation.tokens, spelled_mark_iff (by decide), spelled_identifier_iff]
    exact ⟨isIdentifier_word variance, spelled⟩

end

end Denotes

/-! ### The written form of a type splits into its tokens -/

theorem toList_intercalate_cons (separator first : String) (others : List String) :
    (separator.intercalate (first :: others)).toList =
      first.toList ++ others.flatMap fun text => separator.toList ++ text.toList := by
  induction others generalizing first with
  | nil => simp
  | cons second others inductionHypothesis =>
    rw [String.intercalate_cons_cons, String.toList_append, String.toList_append,
      inductionHypothesis, List.flatMap_cons, List.append_assoc, List.append_assoc]

theorem useForm_arrayOf (dimensions : Nat) (type : TypeExpr) :
    (arrayOf dimensions type).useForm.toList =
      type.useForm.toList ++ (bracketPairs dimensions).flatMap (·.text.toList) := by
  induction dimensions generalizing type with
  | zero => simp [arrayOf, bracketPairs]
  | succ dimensions inductionHypothesis =>
    rw [arrayOf, inductionHypothesis, useForm, String.toList_append, List.append_assoc]
    rfl

namespace TypeToken

theorem endsIdentifier_nil : EndsIdentifier [] := fun _ impossible => by cases impossible

theorem endsIdentifier_mark {token : TypeToken} (isMark : token ∈ marks) (rest : List Char) :
    EndsIdentifier (token.text.toList ++ rest) := by
  obtain ⟨char, spelled, _, _, _, ends⟩ := exists_char_of_mem_marks isMark
  intro first isFirst
  rw [spelled] at isFirst
  obtain rfl := Option.some.inj isFirst
  exact ends

/-- Marks may stand next to each other. -/
theorem splits_marks {written : List TypeToken} (areMarks : ∀ token ∈ written, token ∈ marks)
    {rest : List Char} {tokens : List TypeToken} (later : Splits rest tokens) :
    Splits (written.flatMap (·.text.toList) ++ rest) (written ++ tokens) := by
  induction written with
  | nil => exact later
  | cons token others inductionHypothesis =>
    rw [List.forall_mem_cons] at areMarks
    rw [List.flatMap_cons, List.append_assoc]
    exact .mark areMarks.1 (inductionHypothesis areMarks.2)

theorem endsIdentifier_marks {written : List TypeToken}
    (areMarks : ∀ token ∈ written, token ∈ marks) {rest : List Char} (ends : EndsIdentifier rest) :
    EndsIdentifier (written.flatMap (·.text.toList) ++ rest) := by
  cases written with
  | nil => exact ends
  | cons token others =>
    rw [List.flatMap_cons, List.append_assoc]
    exact endsIdentifier_mark (areMarks token List.mem_cons_self) _

end TypeToken

theorem mem_marks_of_mem_bracketPairs {count : Nat} :
    ∀ token ∈ bracketPairs count, token ∈ marks := by
  induction count with
  | zero => simp [bracketPairs]
  | succ count inductionHypothesis =>
    rw [bracketPairs, List.forall_mem_cons, List.forall_mem_cons]
    exact ⟨by decide, by decide, inductionHypothesis⟩

section Written

variable {scope : List String} {rest : List Char} {tokens : List TypeToken}

theorem splits_dotted {words : List String} (spelled : ∀ word ∈ words, IsIdentifier word)
    (ends : EndsIdentifier rest) (later : Splits rest tokens) :
    EndsIdentifier ((words.flatMap fun word => ".".toList ++ word.toList) ++ rest) ∧
      Splits ((words.flatMap fun word => ".".toList ++ word.toList) ++ rest)
        (DottedName.dotted words ++ tokens) := by
  induction words with
  | nil => exact ⟨ends, later⟩
  | cons word others inductionHypothesis =>
    rw [List.forall_mem_cons] at spelled
    obtain ⟨endsWord, splits⟩ := inductionHypothesis spelled.2
    rw [List.flatMap_cons, List.append_assoc, List.append_assoc]
    have isMark : TypeToken.dot ∈ marks := by decide
    exact ⟨endsIdentifier_mark isMark _, .mark isMark (.word spelled.1 endsWord splits)⟩

theorem splits_name {name : DottedName} (spelled : name.Spelled) (ends : EndsIdentifier rest)
    (later : Splits rest tokens) :
    Splits (name.text.toList ++ rest) (name.tokens ++ tokens) := by
  rw [DottedName.Spelled, List.forall_mem_cons] at spelled
  obtain ⟨endsFirst, splits⟩ := splits_dotted spelled.2 ends later
  rw [DottedName.text, toList_intercalate_cons, List.append_assoc]
  exact .word spelled.1 endsFirst splits

theorem useForm_denote_name (name : DottedName) : (name.denote scope).useForm = name.text := by
  unfold DottedName.denote
  split <;> rfl

/-- The written form of a generic type. -/
theorem toList_useForm_parameterized (raw first : TypeExpr) (others : List TypeExpr) :
    (TypeExpr.parameterized raw (first :: others)).useForm.toList =
      raw.useForm.toList ++ (TypeToken.less.text.toList ++ (first.useForm.toList ++
        ((others.flatMap fun argument => ", ".toList ++ argument.useForm.toList) ++
          TypeToken.greater.text.toList))) := by
  rw [useForm, useForms_eq_map, List.map_cons]
  simp only [String.toList_append, toList_intercalate_cons, List.flatMap_map, List.append_assoc]
  rfl

theorem toList_useForm_bounded (variance : Variance) (bound : TypeExpr) :
    (TypeExpr.bounded variance bound).useForm.toList =
      TypeToken.question.text.toList ++ (' ' :: (variance.word.toList ++
        (' ' :: bound.useForm.toList))) := by
  cases variance with
  | upper => rw [useForm, String.toList_append]; rfl
  | lower => rw [useForm, String.toList_append]; rfl

mutual

/-- The written form of what a derivation denotes splits into the derived tokens. -/
theorem splits_useForm : (derivation : TypeDerivation) → Spelled derivation.tokens →
    {rest : List Char} → {tokens : List TypeToken} → EndsIdentifier rest → Splits rest tokens →
    Splits ((derivation.denote scope).useForm.toList ++ rest) (derivation.tokens ++ tokens)
  | .type name [] dimensions, spelled, rest, tokens, ends, later => by
    obtain ⟨spelledName, -⟩ := spelled_type_iff.mp spelled
    rw [TypeDerivation.denote, useForm_arrayOf, useForm_denote_name, TypeDerivation.tokens,
      List.append_assoc, List.append_assoc]
    exact splits_name spelledName (endsIdentifier_marks mem_marks_of_mem_bracketPairs ends)
      (splits_marks mem_marks_of_mem_bracketPairs later)
  | .type name (first :: others) dimensions, spelled, rest, tokens, ends, later => by
    obtain ⟨spelledName, spelledArguments⟩ := spelled_type_iff.mp spelled
    rw [List.forall_mem_cons] at spelledArguments
    have opens : TypeToken.less ∈ marks := by decide
    have closes : TypeToken.greater ∈ marks := by decide
    have behind := splits_marks (@mem_marks_of_mem_bracketPairs dimensions) later
    obtain ⟨endsFirst, further⟩ := splits_useForm_further others spelledArguments.2
      (endsIdentifier_mark closes _) (.mark closes behind)
    have inside := splits_useForm_argument first spelledArguments.1 endsFirst further
    have whole := splits_name spelledName (endsIdentifier_mark opens _) (.mark opens inside)
    rw [TypeDerivation.denote, useForm_arrayOf, toList_useForm_parameterized, useForm_denote_name,
      TypeDerivation.tokens]
    simp only [List.append_assoc, List.cons_append]
    exact whole

theorem splits_useForm_argument : (argument : ArgumentDerivation) → Spelled argument.tokens →
    {rest : List Char} → {tokens : List TypeToken} → EndsIdentifier rest → Splits rest tokens →
    Splits ((argument.denote scope).useForm.toList ++ rest) (argument.tokens ++ tokens)
  | .type derivation, spelled, _, _, ends, later => splits_useForm derivation spelled ends later
  | .wildcard, _, _, _, _, later =>
    have isMark : TypeToken.question ∈ marks := by decide
    .mark isMark later
  | .bounded variance bound, spelled, rest, tokens, ends, later => by
    have isMark : TypeToken.question ∈ marks := by decide
    have blank : Text.isWhiteSpace ' ' := by decide
    rw [ArgumentDerivation.tokens, spelled_mark_iff isMark, spelled_identifier_iff] at spelled
    rw [ArgumentDerivation.denote, toList_useForm_bounded]
    simp only [List.append_assoc, List.cons_append]
    refine .mark isMark (.blank blank (.word spelled.1 ?_ (.blank blank ?_)))
    · exact fun _ isNext => by cases isNext; decide
    · exact splits_useForm bound spelled.2 ends later

theorem splits_useForm_further : (arguments : List ArgumentDerivation) →
    (∀ argument ∈ arguments, Spelled argument.tokens) →
    {rest : List Char} → {tokens : List TypeToken} → EndsIdentifier rest → Splits rest tokens →
    EndsIdentifier (((denoteAll scope arguments).flatMap fun argument =>
        ", ".toList ++ argument.useForm.toList) ++ rest) ∧
      Splits (((denoteAll scope arguments).flatMap fun argument =>
        ", ".toList ++ argument.useForm.toList) ++ rest) (furtherTokens arguments ++ tokens)
  | [], _, _, _, ends, later => ⟨ends, later⟩
  | first :: others, spelled, rest, tokens, ends, later => by
    rw [List.forall_mem_cons] at spelled
    obtain ⟨endsOthers, splits⟩ := splits_useForm_further others spelled.2 ends later
    have isMark : TypeToken.comma ∈ marks := by decide
    have blank : Text.isWhiteSpace ' ' := by decide
    have split := Splits.mark isMark
      (.blank blank (splits_useForm_argument first spelled.1 endsOthers splits))
    rw [denoteAll, List.flatMap_cons, furtherTokens]
    simp only [List.append_assoc, List.cons_append]
    exact ⟨endsIdentifier_mark isMark _, split⟩

end

end Written

/-! ### The parser reads back what is written -/

/-- What a derivation denotes is read back from its written form. -/
theorem parse_useForm_denote {scope : List String} {derivation : TypeDerivation}
    (spelled : Spelled derivation.tokens) :
    parse scope (derivation.denote scope).useForm = .ok (derivation.denote scope) := by
  have splits := @splits_useForm scope derivation spelled _ _ endsIdentifier_nil .done
  rw [List.append_nil, List.append_nil] at splits
  exact parse_eq_ok_iff.mpr ⟨derivation, splits, rfl⟩

/-- The types that can be read are the canonical ones, and these are the ones that are read back
from their written form. -/
theorem TypeExpr.canonical_iff_parse (scope : List String) (type : TypeExpr) :
    (Canonical scope type ↔ ∃ text, parse scope text = .ok type) ∧
      (Canonical scope type ↔ parse scope type.useForm = .ok type) := by
  have readBack (canonical : Canonical scope type) : parse scope type.useForm = .ok type := by
    obtain ⟨derivation, spelled, rfl⟩ := exists_derivation canonical
    exact parse_useForm_denote spelled
  have canonical (text : String) (read : parse scope text = .ok type) : Canonical scope type := by
    obtain ⟨derivation, splits, rfl⟩ := parse_eq_ok_iff.mp read
    exact canonical_denote derivation (spelled_of_splits splits)
  exact ⟨⟨fun form => ⟨_, readBack form⟩, fun ⟨text, read⟩ => canonical text read⟩,
    readBack, canonical _⟩

end ValueGen
