/-
This file says how the text of a unit is laid out. A class at any level is the class at the
outermost level put deeper, and in the text of the class around it a nested class stands as one
whole block. Unless a name, a type, the generator, the date or the indentation has a line break or a
brace of its own, the braces at line ends are balanced: where a line ends in an opening brace, a
line with nothing but a closing brace follows at the same indentation, with whole blocks in between.
-/

import ValueGen.Proofs.Source.Literals
import ValueGen.Proofs.Source.Writer

namespace ValueGen

open SourceLine (line blank deeper block)
open SourceWriter (lineAt linesAt startingAt)

/-! ### Texts -/

/-- A text without line breaks. -/
def Unbroken (text : String) : Prop := '\n' ∉ text.toList

instance (text : String) : Decidable (Unbroken text) :=
  inferInstanceAs (Decidable (_ ∉ _))

/-- A text without line breaks and braces. -/
structure PlainText (text : String) : Prop where
  unbroken : Unbroken text
  noOpening : '{' ∉ text.toList
  noClosing : '}' ∉ text.toList

instance (text : String) : Decidable (PlainText text) :=
  decidable_of_iff (Unbroken text ∧ '{' ∉ text.toList ∧ '}' ∉ text.toList)
    ⟨fun ⟨unbroken, noOpening, noClosing⟩ => ⟨unbroken, noOpening, noClosing⟩,
      fun plain => ⟨plain.unbroken, plain.noOpening, plain.noClosing⟩⟩

/-- A text whose last character is a given one. -/
def EndsIn (char : Char) (text : String) : Prop := text.toList.getLast? = some char

instance (char : Char) (text : String) : Decidable (EndsIn char text) :=
  inferInstanceAs (Decidable (_ = _))

/-- A text whose first character is a letter. -/
def BeginsWithLetter (text : String) : Prop := text.toList.head?.any Char.isAlpha

instance (text : String) : Decidable (BeginsWithLetter text) :=
  inferInstanceAs (Decidable (_ = _))

/-- A text that is no line break and at whose end no brace stands. -/
structure PlainLine (text : String) : Prop where
  unbroken : Unbroken text
  notOpening : ¬EndsIn '{' text
  notClosing : ¬EndsIn '}' text

instance (text : String) : Decidable (PlainLine text) :=
  decidable_of_iff (Unbroken text ∧ ¬EndsIn '{' text ∧ ¬EndsIn '}' text)
    ⟨fun ⟨unbroken, notOpening, notClosing⟩ => ⟨unbroken, notOpening, notClosing⟩,
      fun plain => ⟨plain.unbroken, plain.notOpening, plain.notClosing⟩⟩

section Texts

variable {first second text : String}

@[simp]
theorem unbroken_append_iff : Unbroken (first ++ second) ↔ Unbroken first ∧ Unbroken second := by
  rw [Unbroken, String.toList_append, List.mem_append, not_or]
  rfl

theorem Unbroken.intercalate {separator : String} {texts : List String}
    (separated : Unbroken separator) (each : ∀ text ∈ texts, Unbroken text) :
    Unbroken (separator.intercalate texts) := by
  induction texts with
  | nil =>
    rw [String.intercalate_nil]
    decide
  | cons first rest inductionHypothesis =>
    have further := inductionHypothesis fun text member => each text (List.mem_cons_of_mem _ member)
    have here := each first List.mem_cons_self
    cases rest with
    | nil => rwa [String.intercalate_singleton]
    | cons second rest =>
      rw [String.intercalate_cons_cons, unbroken_append_iff, unbroken_append_iff]
      exact ⟨⟨here, separated⟩, further⟩

theorem Unbroken.join {texts : List String} (each : ∀ text ∈ texts, Unbroken text) :
    Unbroken (String.join texts) := by
  induction texts with
  | nil => decide
  | cons first rest inductionHypothesis =>
    rw [String.join_cons, unbroken_append_iff]
    exact ⟨each first List.mem_cons_self,
      inductionHypothesis fun text member => each text (List.mem_cons_of_mem _ member)⟩

theorem endsIn_append_iff {char : Char} (nonempty : second ≠ "") :
    EndsIn char (first ++ second) ↔ EndsIn char second := by
  rw [EndsIn, EndsIn, String.toList_append, List.getLast?_append_of_ne_nil]
  rwa [ne_eq, String.toList_eq_nil_iff]

theorem PlainText.plainLine (plain : PlainText text) : PlainLine text where
  unbroken := plain.unbroken
  notOpening ending := plain.noOpening (List.mem_of_getLast? ending)
  notClosing ending := plain.noClosing (List.mem_of_getLast? ending)

/-- What an unbroken text begins with does not matter if something plain ends it. -/
theorem PlainLine.after (here : Unbroken first) (there : PlainLine second)
    (nonempty : second ≠ "") : PlainLine (first ++ second) where
  unbroken := unbroken_append_iff.mpr ⟨here, there.unbroken⟩
  notOpening ending := there.notOpening ((endsIn_append_iff nonempty).mp ending)
  notClosing ending := there.notClosing ((endsIn_append_iff nonempty).mp ending)

theorem PlainLine.append (here : PlainLine first) (there : PlainLine second) :
    PlainLine (first ++ second) := by
  by_cases empty : second = ""
  · rwa [empty, String.append_empty]
  · exact .after here.unbroken there empty

theorem BeginsWithLetter.append (begins : BeginsWithLetter first) :
    BeginsWithLetter (first ++ second) := by
  rw [BeginsWithLetter] at begins ⊢
  rw [String.toList_append]
  cases characters : first.toList with
  | nil =>
    rw [characters] at begins
    cases begins
  | cons char rest => rwa [characters] at begins

theorem PlainLine.semicolon (unbroken : Unbroken text) : PlainLine (text ++ ";") :=
  .after unbroken (by decide) (by decide)

end Texts

/-! ### Balanced lines -/

/-- Lines with balanced braces at line ends, where blocks stand at a level. A line that ends in an
opening brace begins a block, whose lines are balanced one level deeper, and a line with nothing
but a closing brace ends it at the level at which it has begun. Every other line ends in no
brace. -/
inductive Balanced (indentation : String) : Nat → List String → Prop
  | nil {level : Nat} : Balanced indentation level []
  | plain {level : Nat} {line : String} {rest : List String} (notOpening : ¬EndsIn '{' line)
      (notClosing : ¬EndsIn '}' line) (further : Balanced indentation level rest) :
      Balanced indentation level (line :: rest)
  | block {level : Nat} {head : String} {body rest : List String} (begins : BeginsWithLetter head)
      (opening : EndsIn '{' head) (inside : Balanced indentation (level + 1) body)
      (further : Balanced indentation level rest) :
      Balanced indentation level
        (lineAt indentation level head :: (body ++ lineAt indentation level "\x7d" :: rest))

/-- A line that ends in an opening brace is closed: a later line is a closing brace at the
indentation of that line, and the lines in between are balanced one level deeper. -/
def ClosedBy (indentation : String) (line : String) (after : List String) : Prop :=
  ∃ level head body rest, BeginsWithLetter head ∧ line = lineAt indentation level head ∧
    after = body ++ lineAt indentation level "\x7d" :: rest ∧ Balanced indentation (level + 1) body

section Balance

variable {indentation : String} {level : Nat} {line : String} {lines first second : List String}

theorem unbroken_lineAt {text : String} (indented : Unbroken indentation)
    (unbroken : Unbroken text) : Unbroken (lineAt indentation level text) := by
  unfold SourceWriter.lineAt
  split
  · decide
  · rw [unbroken_append_iff]
    exact ⟨.join fun _ member => List.eq_of_mem_replicate member ▸ indented, unbroken⟩

theorem endsIn_lineAt_iff {char : Char} {text : String} :
    EndsIn char (lineAt indentation level text) ↔ EndsIn char text := by
  by_cases empty : text = ""
  · rw [empty, SourceWriter.lineAt_empty]
  · rw [SourceWriter.lineAt_of_ne_empty _ _ empty, endsIn_append_iff empty]

theorem Balanced.append (here : Balanced indentation level first)
    (there : Balanced indentation level second) :
    Balanced indentation level (first ++ second) := by
  induction here with
  | nil => exact there
  | plain notOpening notClosing _ inductionHypothesis =>
    exact .plain notOpening notClosing (inductionHypothesis there)
  | block begins opening inside _ _ furtherHypothesis =>
    rw [List.cons_append, List.append_assoc, List.cons_append]
    exact .block begins opening inside (furtherHypothesis there)

theorem ClosedBy.append {after : List String} (closed : ClosedBy indentation line after)
    (further : List String) : ClosedBy indentation line (after ++ further) := by
  obtain ⟨level, head, body, rest, begins, same, rfl, inside⟩ := closed
  exact ⟨level, head, body, rest ++ further, begins, same, by
    rw [List.append_assoc, List.cons_append], inside⟩

/-- In balanced lines every line that ends in an opening brace is closed. -/
theorem Balanced.closedBy (balanced : Balanced indentation level lines)
    {before after : List String} (split : lines = before ++ line :: after)
    (opening : EndsIn '{' line) : ClosedBy indentation line after := by
  induction balanced generalizing before after with
  | nil => cases before <;> cases split
  | plain notOpening _ _ inductionHypothesis =>
    cases before with
    | nil =>
      obtain ⟨rfl, _⟩ := List.cons.inj split
      exact (notOpening opening).elim
    | cons _ before => exact inductionHypothesis (List.cons.inj split).2
  | @block level head body rest begins _ inside _ insideHypothesis furtherHypothesis =>
    cases before with
    | nil =>
      obtain ⟨rfl, rfl⟩ := List.cons.inj split
      exact ⟨level, head, body, rest, begins, rfl, rfl, inside⟩
    | cons _ before =>
      -- The line is in the body, it ends the block, or it comes after the block.
      rcases List.append_eq_append_iff.mp (List.cons.inj split).2 with
        ⟨between, rfl, inRest⟩ | ⟨between, rfl, inBody⟩
      · cases between with
        | nil =>
          obtain ⟨rfl, _⟩ := List.cons.inj inRest
          exact absurd (endsIn_lineAt_iff.mp opening) (by decide)
        | cons _ between => exact furtherHypothesis (List.cons.inj inRest).2
      · cases between with
        | nil =>
          obtain ⟨rfl, _⟩ := List.cons.inj inBody
          exact absurd (endsIn_lineAt_iff.mp opening) (by decide)
        | cons _ between =>
          obtain ⟨rfl, rfl⟩ := List.cons.inj inBody
          exact (insideHypothesis rfl).append _

end Balance

/-! ### Tidy lines -/

/-- Lines that are unbroken and, at whatever level they stand, balanced. -/
structure Tidy (lines : List SourceLine) : Prop where
  balanced : ∀ indentation level, Balanced indentation level (linesAt indentation level lines)
  unbroken : ∀ line ∈ lines, Unbroken line.text

namespace Tidy

variable {lines first second : List SourceLine}

theorem append (here : Tidy first) (there : Tidy second) : Tidy (first ++ second) where
  balanced indentation level := by
    rw [SourceWriter.linesAt_append]
    exact (here.balanced indentation level).append (there.balanced indentation level)
  unbroken line member :=
    (List.mem_append.mp member).elim (here.unbroken line) (there.unbroken line)

theorem of_plainLine (each : ∀ line ∈ lines, PlainLine line.text) : Tidy lines where
  balanced indentation level := by
    induction lines with
    | nil => exact .nil
    | cons line rest inductionHypothesis =>
      have here := each line List.mem_cons_self
      exact .plain (fun ending => here.notOpening (endsIn_lineAt_iff.mp ending))
        (fun ending => here.notClosing (endsIn_lineAt_iff.mp ending))
        (inductionHypothesis fun line member => each line (List.mem_cons_of_mem _ member))
  unbroken line member := (each line member).unbroken

theorem nil : Tidy [] := of_plainLine nofun

theorem line {text : String} (plain : PlainLine text) : Tidy (line text) :=
  of_plainLine fun _ member => List.mem_singleton.mp member ▸ plain

theorem blank : Tidy blank := line (by decide)

theorem block {head : String} (begins : BeginsWithLetter head) (unbroken : Unbroken head)
    (inside : Tidy lines) : Tidy (block head lines) where
  balanced indentation level := by
    rw [SourceWriter.linesAt_block]
    exact .block begins.append ((endsIn_append_iff (by decide)).mpr (by decide))
      (inside.balanced indentation (level + 1)) .nil
  unbroken line member := by
    rw [SourceLine.block, List.mem_append, List.mem_append, deeper, List.mem_map] at member
    rcases member with (isHead | ⟨inner, innerMember, rfl⟩) | isEnd
    · rw [List.mem_singleton.mp isHead]
      exact unbroken_append_iff.mpr ⟨unbroken, by decide⟩
    · exact inside.unbroken inner innerMember
    · rw [List.mem_singleton.mp isEnd]
      show Unbroken "\x7d"
      decide

theorem flatMap {Item : Type} {linesOf : Item → List SourceLine} {items : List Item}
    (each : ∀ item ∈ items, Tidy (linesOf item)) : Tidy (items.flatMap linesOf) := by
  induction items with
  | nil => exact nil
  | cons item rest inductionHypothesis =>
    exact (each item List.mem_cons_self).append
      (inductionHypothesis fun item member => each item (List.mem_cons_of_mem _ member))

end Tidy

/-! ### Tidy classes -/

/-- A field in whose names and type there are no line breaks and braces. -/
structure GeneratedField.Plain (field : GeneratedField) : Prop where
  name : PlainText field.name
  accessor : PlainText field.accessor
  type : PlainText field.type.useForm

/-- A class in whose own name, type parameters and fields there are no line breaks and braces. -/
structure GeneratedClass.Plain (generated : GeneratedClass) : Prop where
  simpleName : PlainText generated.name.simpleName
  typeParameters : ∀ parameter ∈ generated.typeParameters, PlainText parameter.declarationForm
  fields : ∀ field ∈ generated.fields, field.Plain

/-- A class and options in which no name, no type, no generator, no date and no indentation has a
line break or a brace. -/
structure GeneratedClass.PlainWith (generated : GeneratedClass) (options : RenderOptions) :
    Prop where
  package : PlainText generated.name.package
  classes : ∀ inner ∈ generated.preorder, inner.Plain
  generatorId : PlainText options.generatorId
  date : ∀ date ∈ options.date, PlainText date
  indent : PlainText options.indent

namespace GeneratedClass

variable {fields : List GeneratedField}

theorem tidy_fieldLines (plain : ∀ field ∈ fields, field.Plain) : Tidy (fieldLines fields) := by
  unfold fieldLines
  split
  · exact .nil
  · refine .append (.flatMap fun field member => .line (.semicolon ?_)) .blank
    have here := plain field member
    simp +decide [here.type.unbroken, here.name.unbroken]

theorem tidy_constructorLines {simple : String} (named : PlainText simple)
    (plain : ∀ field ∈ fields, field.Plain) : Tidy (constructorLines simple fields) := by
  have parameters : Unbroken
      (", ".intercalate (fields.map fun field => field.type.useForm ++ " " ++ field.name)) :=
    .intercalate (by decide) fun text member => by
      obtain ⟨field, fieldMember, rfl⟩ := List.mem_map.mp member
      have here := plain field fieldMember
      simp +decide [here.type.unbroken, here.name.unbroken]
  refine .block ?_ ?_ (.flatMap fun field member => .line (.semicolon ?_))
  · simp +decide [String.append_assoc, BeginsWithLetter.append]
  · simp +decide [named.unbroken, parameters]
  · simp +decide [(plain field member).name.unbroken]

theorem tidy_accessorLines {field : GeneratedField} (plain : field.Plain) :
    Tidy (accessorLines field) := by
  refine .append .blank (.block ?_ ?_ (.line (.semicolon ?_)))
  · simp +decide [String.append_assoc, BeginsWithLetter.append]
  · simp +decide [plain.type.unbroken, plain.accessor.unbroken]
  · simp +decide [plain.name.unbroken]

theorem plainLine_comparison {field : GeneratedField} (plain : field.Plain) :
    PlainLine (comparison field) := by
  have name := plain.name.unbroken
  have call (function : String) (unbroken : Unbroken function) :
      PlainLine (function ++ "(" ++ field.name ++ ", other." ++ field.name ++ ")") :=
    .after (by simp +decide [unbroken, name]) (by decide) (by decide)
  have asNumbers (function : String) (unbroken : Unbroken function) :
      PlainLine (function ++ "(" ++ field.name ++ ", other." ++ field.name ++ ")" ++ " == 0") :=
    (call function unbroken).append (by decide)
  unfold comparison
  split
  · exact asNumbers _ (by decide)
  · exact asNumbers _ (by decide)
  · exact call _ (by decide)
  · exact call _ (by decide)
  · split
    · exact .append (.after name (by decide) (by decide)) plain.name.plainLine
    · exact call _ (by decide)

theorem plainLine_continuation {field : GeneratedField} {rest : List GeneratedField}
    (plain : ∀ inner ∈ field :: rest, inner.Plain) :
    ∀ line ∈ comparisonLines.continuation field rest, PlainLine line.text := by
  have conjunct {field : GeneratedField} (here : field.Plain) :
      PlainLine ("&& " ++ comparison field) :=
    .append (by decide) (plainLine_comparison here)
  induction rest generalizing field with
  | nil =>
    intro line member
    rw [List.mem_singleton.mp member]
    exact .semicolon (conjunct (plain field List.mem_cons_self)).unbroken
  | cons next rest inductionHypothesis =>
    intro line member
    rcases List.mem_cons.mp member with rfl | further
    · exact conjunct (plain field List.mem_cons_self)
    · exact inductionHypothesis (fun inner member => plain inner (List.mem_cons_of_mem _ member))
        line further

theorem tidy_comparisonLines (plain : ∀ field ∈ fields, field.Plain) :
    Tidy (comparisonLines fields) := by
  have begun {field : GeneratedField} (member : field ∈ fields) :
      PlainLine ("return " ++ comparison field) :=
    .append (by decide) (plainLine_comparison (plain field member))
  match fields with
  | [] => exact .line (by decide)
  | [field] => exact .line (.semicolon (begun List.mem_cons_self).unbroken)
  | first :: second :: rest =>
    refine .append (.line (begun List.mem_cons_self)) (.of_plainLine fun line member => ?_)
    obtain ⟨inner, innerMember, rfl⟩ := List.mem_map.mp member
    exact plainLine_continuation (fun field member => plain field (List.mem_cons_of_mem _ member))
      inner innerMember

theorem tidy_equalsLines {simple : String} (named : PlainText simple) (parameterCount : Nat)
    (plain : ∀ field ∈ fields, field.Plain) :
    Tidy (equalsLines simple parameterCount fields) := by
  have wildcards : Unbroken (", ".intercalate (List.replicate parameterCount "?")) :=
    .intercalate (by decide) fun text member => by
      rw [List.eq_of_mem_replicate member]
      decide
  have type : Unbroken (if parameterCount = 0 then simple
      else simple ++ "<" ++ ", ".intercalate (List.replicate parameterCount "?") ++ ">") := by
    split
    · exact named.unbroken
    · simp +decide [named.unbroken, wildcards]
  have override : Tidy (line "@Override") := .line (by decide)
  have same : Tidy (block "if (this == o)" (line "return true;")) :=
    .block (by decide) (by decide) (.line (by decide))
  have instances : Tidy (block ("if (!(o instanceof " ++ simple ++ "))") (line "return false;")) :=
    .block (by simp +decide [String.append_assoc, BeginsWithLetter.append])
      (by simp +decide [named.unbroken]) (.line (by decide))
  refine override.append (.block (by decide) (by decide)
    (((same.append instances).append ?_).append (tidy_comparisonLines plain)))
  split
  · exact .nil
  · exact .line (.after (by simp +decide [type]) (by decide) (by decide))

theorem tidy_hashCodeLines (plain : ∀ field ∈ fields, field.Plain) :
    Tidy (hashCodeLines fields) := by
  have names : Unbroken (", ".intercalate (fields.map (·.name))) :=
    .intercalate (by decide) fun text member => by
      obtain ⟨field, fieldMember, rfl⟩ := List.mem_map.mp member
      exact (plain field fieldMember).name.unbroken
  exact .append (.line (by decide)) (.block (by decide) (by decide)
    (.line (.after (by simp +decide [names]) (by decide) (by decide))))

theorem unbroken_descriptionPart {separator : String} (unbroken : Unbroken separator)
    {field : GeneratedField} (plain : field.Plain) :
    Unbroken (descriptionPart separator field) := by
  have name := plain.name.unbroken
  have described : Unbroken (description field) := by
    unfold description
    split
    · simp +decide [name]
    · simp +decide [name]
    · exact name
  simp +decide [descriptionPart, unbroken, name, described]

theorem tidy_toStringLines {simple : String} (named : PlainText simple)
    (plain : ∀ field ∈ fields, field.Plain) : Tidy (toStringLines simple fields) := by
  have parts : Unbroken (descriptionParts fields) := by
    cases fields with
    | nil => decide
    | cons first rest =>
      refine unbroken_append_iff.mpr ⟨unbroken_descriptionPart (by decide)
        (plain first List.mem_cons_self), .join fun text member => ?_⟩
      obtain ⟨field, fieldMember, rfl⟩ := List.mem_map.mp member
      exact unbroken_descriptionPart (by decide) (plain field (List.mem_cons_of_mem _ fieldMember))
  exact .append (.line (by decide)) (.block (by decide) (by decide)
    (.line (.after (by simp +decide [named.unbroken, parts]) (by decide) (by decide))))

theorem tidy_memberLines {generated : GeneratedClass} (plain : generated.Plain) :
    Tidy (memberLines generated) :=
  (tidy_fieldLines plain.fields).append (tidy_constructorLines plain.simpleName plain.fields)
    |>.append (.flatMap fun field member => tidy_accessorLines (plain.fields field member))
    |>.append .blank |>.append (tidy_equalsLines plain.simpleName _ plain.fields)
    |>.append .blank |>.append (tidy_hashCodeLines plain.fields)
    |>.append .blank |>.append (tidy_toStringLines plain.simpleName plain.fields)

theorem beginsWithLetter_header (nested : Bool) (generated : GeneratedClass) :
    BeginsWithLetter (header nested generated) := by
  refine .append (.append (.append ?_))
  cases nested <;> decide

theorem unbroken_header (nested : Bool) {generated : GeneratedClass} (plain : generated.Plain) :
    Unbroken (header nested generated) := by
  have parameters : Unbroken
      (", ".intercalate (generated.typeParameters.map (·.declarationForm))) :=
    .intercalate (by decide) fun text member => by
      obtain ⟨parameter, parameterMember, rfl⟩ := List.mem_map.mp member
      exact (plain.typeParameters parameter parameterMember).unbroken
  have list : Unbroken (parameterList generated.typeParameters) := by
    unfold parameterList
    split
    · decide
    · simp +decide [parameters]
  cases nested
  · simp +decide [header, plain.simpleName.unbroken, list]
  · simp +decide [header, plain.simpleName.unbroken, list]

mutual

theorem tidy_lines (nested : Bool) : (generated : GeneratedClass) →
    (∀ inner ∈ generated.preorder, inner.Plain) → Tidy (lines nested generated)
  | ⟨name, source, typeParameters, fields, inner⟩, plain => by
    rw [preorder, List.forall_mem_cons] at plain
    rw [lines]
    exact .block (beginsWithLetter_header _ _) (unbroken_header _ plain.1)
      ((tidy_memberLines plain.1).append (tidy_nestedLines inner plain.2))

theorem tidy_nestedLines : (inner : List GeneratedClass) →
    (∀ generated ∈ preorderOfAll inner, generated.Plain) → Tidy (nestedLines inner)
  | [], _ => by
    rw [nestedLines]
    exact .nil
  | first :: rest, plain => by
    rw [preorderOfAll, List.forall_mem_append] at plain
    rw [nestedLines]
    exact (Tidy.append .blank (tidy_lines true first plain.1)).append
      (tidy_nestedLines rest plain.2)

end

theorem unbroken_quote {text : String} (unbroken : Unbroken text) :
    Unbroken (StringLiteral.quote text) := by
  have marks : ∀ char, StringLiteral.Marked char → '\n' ≠ char := by
    rintro _ (rfl | rfl)
    · decide
    · decide
  have escaped : Unbroken (String.ofList (text.toList.flatMap StringLiteral.escape)) := by
    rw [Unbroken, String.toList_ofList, ← List.forall_mem_ne,
      StringLiteral.forall_mem_escape_iff marks, List.forall_mem_ne]
    exact unbroken
  simp +decide [StringLiteral.quote, escaped]

theorem tidy_generatedBy {options : RenderOptions} (generatorId : PlainText options.generatorId)
    (date : ∀ date ∈ options.date, PlainText date) : Tidy (line (generatedBy options)) := by
  have identity := unbroken_quote generatorId.unbroken
  refine .line ?_
  unfold generatedBy
  cases given : options.date with
  | none =>
    exact .after (by simp +decide [identity]) (by decide) (by decide)
  | some time =>
    have told := unbroken_quote (date time given).unbroken
    exact .after (by simp +decide [identity, told]) (by decide) (by decide)

theorem tidy_unitLines {generated : GeneratedClass} {options : RenderOptions}
    (plain : generated.PlainWith options) : Tidy (unitLines generated options) := by
  have package : Tidy (if generated.name.package.isEmpty then []
      else line ("package " ++ generated.name.package ++ ";") ++ blank) := by
    split
    · exact .nil
    · exact .append (.line (.semicolon (by simp +decide [plain.package.unbroken]))) .blank
  exact (package.append (tidy_generatedBy plain.generatorId plain.date)).append
    (tidy_lines false generated plain.classes)

end GeneratedClass

/-! ### The text of a unit -/

/-- The lines of a text that ends in a line break, without the line breaks. -/
def textLines (text : String) : List String :=
  (text.toList.splitOn '\n').dropLast.map String.ofList

/-- Unbroken lines are the lines of the text that they make up. -/
theorem textLines_join {lines : List String} (unbroken : ∀ line ∈ lines, Unbroken line) :
    textLines (String.join (lines.map (· ++ "\n"))) = lines := by
  have divided : (String.join (lines.map (· ++ "\n"))).toList.splitOn '\n' =
      lines.map String.toList ++ [[]] := by
    induction lines with
    | nil => rfl
    | cons line rest inductionHypothesis =>
      have further := inductionHypothesis fun line member =>
        unbroken line (List.mem_cons_of_mem _ member)
      have broken : (String.join ((line :: rest).map (· ++ "\n"))).toList =
          line.toList ++ '\n' :: (String.join (rest.map (· ++ "\n"))).toList := by
        rw [List.map_cons, String.join_cons, String.toList_append, String.toList_append,
          List.append_assoc]
        rfl
      rw [broken, List.splitOn_append_cons_self,
        List.splitOn_eq_singleton (unbroken line List.mem_cons_self), further]
      rfl
  rw [textLines, divided, List.dropLast_concat, List.map_map]
  exact List.map_id'' (fun line => String.ofList_toList) _

namespace GeneratedClass

/-- A writer that has written a class, starting at a level. -/
def writtenAt (indentation : String) (level : Nat) (nested : Bool) (generated : GeneratedClass) :
    SourceWriter :=
  (startingAt indentation level).run (classSteps nested generated)

/-- A writer that has written the unit of an outermost class. -/
def writtenUnit (generated : GeneratedClass) (options : RenderOptions) : SourceWriter :=
  (startingAt options.indent 0).run (unitSteps generated options)

theorem written_writtenAt (indentation : String) (level : Nat) (nested : Bool)
    (generated : GeneratedClass) :
    (writtenAt indentation level nested generated).written =
      linesAt indentation level (lines nested generated) := by
  rw [writtenAt, (writes_lines nested generated).run]
  exact List.nil_append _

theorem writtenUnit_eq (generated : GeneratedClass) (options : RenderOptions) :
    writtenUnit generated options =
      ⟨options.indent, 0, linesAt options.indent 0 (unitLines generated options)⟩ := by
  rw [writtenUnit, (writes_unitLines generated options).run]
  exact congrArg _ (List.nil_append _)

theorem lineAt_outermost (indentation text : String) : lineAt indentation 0 text = text := by
  unfold lineAt
  split
  · rename_i empty
    exact (String.isEmpty_iff.mp empty).symm
  · exact String.empty_append

/-- The unit is the package, the annotation and the class, in this order. -/
theorem written_writtenUnit (generated : GeneratedClass) (options : RenderOptions) :
    (writtenUnit generated options).written =
      (if generated.name.package.isEmpty then []
        else ["package " ++ generated.name.package ++ ";", ""]) ++
        generatedBy options :: (writtenAt options.indent 0 false generated).written := by
  have single (text : String) : linesAt options.indent 0 (line text) = [text] := by
    rw [SourceWriter.linesAt_line, lineAt_outermost]
  rw [writtenUnit_eq, written_writtenAt]
  show linesAt options.indent 0 (unitLines generated options) = _
  rw [unitLines, SourceWriter.linesAt_append, SourceWriter.linesAt_append, single,
    List.append_assoc, List.singleton_append]
  congr 1
  split
  · rfl
  · rw [SourceWriter.linesAt_append, single, blank, single]
    rfl

/-- Nested classes are whole blocks, each with an empty line before it. -/
theorem linesAt_nestedLines (indentation : String) (level : Nat) (inner : List GeneratedClass) :
    linesAt indentation level (nestedLines inner) =
      inner.flatMap fun nested => "" :: (writtenAt indentation level true nested).written := by
  induction inner with
  | nil =>
    rw [nestedLines]
    rfl
  | cons first rest inductionHypothesis =>
    rw [nestedLines, SourceWriter.linesAt_append, SourceWriter.linesAt_append, inductionHypothesis,
      List.flatMap_cons, written_writtenAt]
    rfl

end GeneratedClass

/-- How a class and the unit of a class are laid out. -/
structure Layout (generated : GeneratedClass) (options : RenderOptions) : Prop where
  /-- The source of the unit is what a writer has written, line by line. -/
  source : (generated.render options).source = (generated.writtenUnit options).source
  /-- Wherever a writer stands, it adds the lines of the class at the outermost level, put to its
  own level, and it returns to that level. -/
  relative : ∀ nested (writer : SourceWriter), writer.run (generated.classSteps nested) =
    ⟨writer.indentation, writer.level, writer.written ++
      (generated.writtenAt writer.indentation 0 nested).written.map
        (lineAt writer.indentation writer.level)⟩
  /-- It never gives back a level that there is not. -/
  guarded : ∀ nested (writer : SourceWriter), writer.Guarded (generated.classSteps nested)
  /-- In the text of the class each nested class is the text of that class one level deeper. -/
  nestedBlocks : ∀ nested indentation level,
    (generated.writtenAt indentation level nested).written =
      lineAt indentation level (generated.header nested ++ " \x7b") ::
        (((startingAt indentation (level + 1)).run generated.memberSteps).written ++
          (generated.nested.flatMap fun inner =>
            "" :: (inner.writtenAt indentation (level + 1) true).written) ++
          [lineAt indentation level "\x7d"])
  /-- In the unit one line tells the generator; after it come the first lines of the classes, one
  for each class in the tree from the outside in. -/
  marks : WriterStep.marks (generated.unitSteps options) =
    (.generator, GeneratedClass.generatedBy options) :: generated.head false ::
      (GeneratedClass.preorderOfAll generated.nested).map (·.head true)
  /-- The text of the unit is a line for the package, if it has a name, with an empty line after it,
  then the line that tells the generator, and then the text of the class. -/
  unit : (generated.writtenUnit options).written =
    (if generated.name.package.isEmpty then []
      else ["package " ++ generated.name.package ++ ";", ""]) ++
      GeneratedClass.generatedBy options :: (generated.writtenAt options.indent 0 false).written
  /-- The unit ends at the outermost level, and no level is given back that there is not. -/
  outermost : (generated.writtenUnit options).level = 0 ∧
    (startingAt options.indent 0).Guarded (generated.unitSteps options)
  /-- Without further line breaks and braces, what the writer writes as a line is a line of the
  source. -/
  lines : generated.PlainWith options →
    textLines (generated.render options).source = (generated.writtenUnit options).written
  /-- Then the lines of the source are balanced. -/
  balanced : generated.PlainWith options →
    Balanced options.indent 0 (textLines (generated.render options).source)
  /-- So every line of the source that ends in an opening brace is closed. -/
  closed : generated.PlainWith options → ∀ before line after,
    textLines (generated.render options).source = before ++ line :: after → EndsIn '{' line →
      ClosedBy options.indent line after

namespace GeneratedClass

theorem source_render (generated : GeneratedClass) (options : RenderOptions) :
    (generated.render options).source = (writtenUnit generated options).source := by
  rw [writtenUnit_eq]
  exact SourceWriter.printAll_eq _ _

theorem textLines_source_render {generated : GeneratedClass} {options : RenderOptions}
    (plain : generated.PlainWith options) :
    textLines (generated.render options).source = (writtenUnit generated options).written := by
  rw [source_render]
  refine textLines_join fun line member => ?_
  rw [writtenUnit_eq] at member
  obtain ⟨inner, innerMember, rfl⟩ := List.mem_map.mp member
  exact unbroken_lineAt plain.indent.unbroken ((tidy_unitLines plain).unbroken inner innerMember)

theorem balanced_source_render {generated : GeneratedClass} {options : RenderOptions}
    (plain : generated.PlainWith options) :
    Balanced options.indent 0 (textLines (generated.render options).source) := by
  rw [textLines_source_render plain, writtenUnit_eq]
  exact (tidy_unitLines plain).balanced options.indent 0

end GeneratedClass

/-- A class of any depth is laid out in this way with any options. -/
theorem layout_render (generated : GeneratedClass) (options : RenderOptions) :
    Layout generated options where
  source := generated.source_render options
  relative nested writer := by
    rw [(generated.writes_lines nested).run, generated.written_writtenAt,
      SourceWriter.linesAt_eq_map]
  guarded nested := (generated.writes_lines nested).guarded
  nestedBlocks nested indentation level := by
    obtain ⟨name, source, typeParameters, fields, inner⟩ := generated
    have members := (GeneratedClass.writes_memberLines ⟨name, source, typeParameters, fields,
      inner⟩).run (startingAt indentation (level + 1))
    rw [GeneratedClass.written_writtenAt, GeneratedClass.lines, SourceWriter.linesAt_block,
      SourceWriter.linesAt_append, GeneratedClass.linesAt_nestedLines, members]
    rfl
  marks := (generated.writes_unitLines options).marks
  unit := generated.written_writtenUnit options
  outermost := by
    rw [GeneratedClass.writtenUnit_eq]
    exact ⟨rfl, (generated.writes_unitLines options).guarded _⟩
  lines := GeneratedClass.textLines_source_render
  balanced := GeneratedClass.balanced_source_render
  closed plain _ _ _ split opening :=
    (GeneratedClass.balanced_source_render plain).closedBy split opening

/-- A class with a type parameter and two fields, in which a class with one field is nested. -/
def accountClass : GeneratedClass where
  name := ⟨"pkg", "Account", []⟩
  source := "pkg.AccountPOJO"
  typeParameters := [.typeVariable "T" [.named "java.lang.Comparable"]]
  fields := [⟨"owner", "getOwner", .named "T"⟩, ⟨"balance", "getBalance", .named "double"⟩]
  nested := [⟨⟨"pkg", "Account", ["Entry"]⟩, "pkg.AccountPOJO.Entry", [],
    [⟨"amounts", "amounts", .array (.array (.named "int"))⟩], []⟩]

theorem plainWith_accountClass : accountClass.PlainWith (.plain "generator") where
  package := by decide
  classes inner member := by
    have either : inner = accountClass ∨ inner ∈ accountClass.nested := by
      simpa [GeneratedClass.preorder, GeneratedClass.preorderOfAll, accountClass] using member
    rcases either with rfl | isNested
    · refine ⟨by decide, by decide, fun field fieldMember => ?_⟩
      rcases List.mem_pair.mp fieldMember with rfl | rfl
      · exact ⟨by decide, by decide, by decide⟩
      · exact ⟨by decide, by decide, by decide⟩
    · rw [List.mem_singleton.mp isNested]
      refine ⟨by decide, by decide, fun field fieldMember => ?_⟩
      rw [List.mem_singleton.mp fieldMember]
      exact ⟨by decide, by decide, by decide⟩
  generatorId := by decide
  date := nofun
  indent := by decide

theorem layout_render_account :
    accountClass.PlainWith (.plain "generator") ∧
      Balanced "    " 0 (textLines (accountClass.render (.plain "generator")).source) :=
  ⟨plainWith_accountClass,
    (layout_render accountClass (.plain "generator")).balanced plainWith_accountClass⟩

end ValueGen
