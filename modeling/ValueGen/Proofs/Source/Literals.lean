/-
This file says how the literals in the annotation of a unit are read. In Java what stands between
the quotes of a literal is taken character by character: a backslash begins an escape, the first
quote that is not escaped ends the literal, and no line ends in it. The writer escapes backslashes
and quotes and nothing else. So the literals of the annotation are always found where they have been
put, and they are read as the generator and the date, unless one of these has a line end of its own.
-/

import ValueGen.Proofs.Source.Equality
import ValueGen.Round.Plan

namespace ValueGen

open SourceLine (line)

namespace StringLiteral

/-! ### What a literal spells -/

/-- What the letter or mark behind a backslash stands for. -/
def escaped? : Char → Option Char
  | 'b' => some '\x08'
  | 't' => some '\t'
  | 'n' => some '\n'
  | 'f' => some '\x0c'
  | 'r' => some '\r'
  | '"' => some '"'
  | '\x27' => some '\x27'
  | '\\' => some '\\'
  | _ => none

/-- Digits that may stand behind a backslash: one to three octal ones, and of three the first is at
most three. -/
structure IsOctal (digits : List Char) : Prop where
  digit : ∀ digit ∈ digits, '0' ≤ digit ∧ digit ≤ '7'
  nonempty : digits ≠ []
  short : digits.length ≤ 2 ∨ digits.length = 3 ∧ ∀ first ∈ digits.head?, first ≤ '3'

/-- The code point that octal digits stand for. -/
def octalCode (digits : List Char) : Nat :=
  digits.foldl (fun code digit => 8 * code + (digit.toNat - 48)) 0

/-- What stands between the quotes of a literal spells a text. Quotes and backslashes never stand
for themselves; which other characters do is left open. -/
inductive Spells (standsAlone : Char → Prop) : List Char → List Char → Prop
  | nil : Spells standsAlone [] []
  | alone {char : Char} {body text : List Char} (notQuote : char ≠ '"') (notBackslash : char ≠ '\\')
      (allowed : standsAlone char) (further : Spells standsAlone body text) :
      Spells standsAlone (char :: body) (char :: text)
  | mark {letter char : Char} {body text : List Char} (known : escaped? letter = some char)
      (further : Spells standsAlone body text) :
      Spells standsAlone ('\\' :: letter :: body) (char :: text)
  /-- As many digits as can belong to the escape do so. -/
  | octal {digits body text : List Char} (octal : IsOctal digits)
      (longest : ∀ next ∈ body.head?, ¬IsOctal (digits ++ [next]))
      (further : Spells standsAlone body text) :
      Spells standsAlone ('\\' :: (digits ++ body)) (Char.ofNat (octalCode digits) :: text)

/-- Characters that are written with a backslash. -/
def Marked (char : Char) : Prop := char = '"' ∨ char = '\\'

theorem toList_quote (text : String) :
    (quote text).toList = '"' :: (text.toList.flatMap escape ++ ['"']) := by
  rw [quote, String.toList_append, String.toList_append]
  exact congrArg (fun body => '"' :: (body ++ ['"'])) String.toList_ofList

section Reading

variable {standsAlone : Char → Prop} {body other text behind rest : List Char} {char : Char}

theorem escape_of_not_marked (unmarked : ¬Marked char) : escape char = [char] := by
  unfold escape
  split
  · exact absurd (.inr rfl) unmarked
  · exact absurd (.inl rfl) unmarked
  · rfl

theorem escape_of_marked (marked : Marked char) :
    escape char = ['\\', char] ∧ escaped? char = some char := by
  rcases marked with rfl | rfl
  · exact ⟨rfl, rfl⟩
  · exact ⟨rfl, rfl⟩

/-- What holds of quotes and backslashes holds throughout a text as it is written exactly if it
holds throughout the text. -/
theorem forall_mem_escape_iff {Holds : Char → Prop} (marks : ∀ char, Marked char → Holds char) :
    (∀ written ∈ text.flatMap escape, Holds written) ↔ ∀ char ∈ text, Holds char := by
  rw [List.forall_mem_flatMap]
  refine forall₂_congr fun char _ => ?_
  by_cases marked : Marked char
  · rw [(escape_of_marked marked).1, List.forall_mem_cons, List.forall_mem_singleton]
    exact and_iff_right (marks '\\' (.inr rfl))
  · rw [escape_of_not_marked marked, List.forall_mem_singleton]

/-- A backslash is no octal digit, and neither is a quote. -/
theorem IsOctal.exists_cons {digits : List Char} (octal : IsOctal digits) :
    ∃ first further, digits = first :: further ∧ ¬Marked first := by
  cases digits with
  | nil => exact absurd rfl octal.nonempty
  | cons first further =>
    refine ⟨first, further, rfl, ?_⟩
    rintro (rfl | rfl)
    · exact absurd (octal.digit _ List.mem_cons_self).1 (by decide)
    · exact absurd (octal.digit _ List.mem_cons_self).2 (by decide)

theorem Spells.cons_escape (allowed : Marked char ∨ standsAlone char)
    (further : Spells standsAlone body text) :
    Spells standsAlone (escape char ++ body) (char :: text) := by
  by_cases marked : Marked char
  · obtain ⟨written, known⟩ := escape_of_marked marked
    rw [written]
    exact .mark known further
  · rw [escape_of_not_marked marked]
    exact .alone (fun same => marked (.inl same)) (fun same => marked (.inr same))
      (allowed.resolve_left marked) further

/-- If a literal goes on with a character as it is written, it spells that character there. -/
theorem Spells.of_escape (spelled : Spells standsAlone body other)
    (same : body ++ '"' :: behind = escape char ++ rest) :
    ∃ bodyRest otherRest, body = escape char ++ bodyRest ∧ other = char :: otherRest ∧
      Spells standsAlone bodyRest otherRest ∧ bodyRest ++ '"' :: behind = rest ∧
      (Marked char ∨ standsAlone char) := by
  by_cases marked : Marked char
  · -- The backslash begins an escape, and what is behind it is no digit.
    obtain ⟨written, known⟩ := escape_of_marked marked
    rw [written] at same ⊢
    cases spelled with
    | nil => exact absurd (List.cons.inj same).1 (by decide)
    | alone _ notBackslash _ _ => exact absurd (List.cons.inj same).1 notBackslash
    | mark isKnown further =>
      obtain ⟨rfl, sameRest⟩ := List.cons.inj (List.cons.inj same).2
      rw [known] at isKnown
      obtain rfl := Option.some.inj isKnown
      exact ⟨_, _, rfl, rfl, further, sameRest, .inl marked⟩
    | octal octal _ _ =>
      obtain ⟨first, _, rfl, unmarked⟩ := octal.exists_cons
      have firstSame : first = char := (List.cons.inj (List.cons.inj same).2).1
      exact absurd (firstSame ▸ marked) unmarked
  · -- The character neither ends the literal nor begins an escape.
    rw [escape_of_not_marked marked] at same ⊢
    cases spelled with
    | nil => exact absurd (.inl (List.cons.inj same).1.symm) marked
    | alone _ _ allowed further =>
      obtain ⟨rfl, sameRest⟩ := List.cons.inj same
      exact ⟨_, _, rfl, rfl, further, sameRest, .inr allowed⟩
    | mark _ _ => exact absurd (.inr (List.cons.inj same).1.symm) marked
    | octal _ _ _ => exact absurd (.inr (List.cons.inj same).1.symm) marked

theorem spells_escape (allowed : ∀ char ∈ text, Marked char ∨ standsAlone char) :
    Spells standsAlone (text.flatMap escape) text := by
  induction text with
  | nil => exact .nil
  | cons char rest inductionHypothesis =>
    exact .cons_escape (allowed char List.mem_cons_self)
      (inductionHypothesis fun char member => allowed char (List.mem_cons_of_mem _ member))

/-- Where a text has been written with a quote behind it, a literal ends at that quote and spells
the text. -/
theorem Spells.unique (spelled : Spells standsAlone body other)
    (same : body ++ '"' :: behind = text.flatMap escape ++ '"' :: rest) :
    body = text.flatMap escape ∧ other = text ∧ behind = rest ∧
      ∀ char ∈ text, Marked char ∨ standsAlone char := by
  induction text generalizing body other with
  | nil =>
    -- Nothing but the end of a literal begins with a quote.
    cases spelled with
    | nil => exact ⟨rfl, rfl, (List.cons.inj same).2, nofun⟩
    | alone notQuote _ _ _ => exact absurd (List.cons.inj same).1 notQuote
    | mark _ _ => exact absurd (List.cons.inj same).1 (by decide)
    | octal _ _ _ => exact absurd (List.cons.inj same).1 (by decide)
  | cons char text inductionHypothesis =>
    rw [List.flatMap_cons, List.append_assoc] at same
    obtain ⟨bodyRest, otherRest, rfl, rfl, further, sameRest, allowed⟩ := spelled.of_escape same
    obtain ⟨rfl, rfl, sameBehind, each⟩ := inductionHypothesis further sameRest
    exact ⟨rfl, rfl, sameBehind, List.forall_mem_cons.mpr ⟨allowed, each⟩⟩

/-- What is written for a text spells just that text, and only where all of its other characters may
stand for themselves. -/
theorem spells_escape_iff :
    Spells standsAlone (text.flatMap escape) other ↔
      other = text ∧ ∀ char ∈ text, Marked char ∨ standsAlone char := by
  constructor
  · intro spelled
    have closed : text.flatMap escape ++ ['"'] = text.flatMap escape ++ ['"'] := rfl
    obtain ⟨_, same, _, allowed⟩ := spelled.unique closed
    exact ⟨same, allowed⟩
  · rintro ⟨rfl, allowed⟩
    exact spells_escape allowed

end Reading

/-! ### Two replacements -/

/-- Puts some characters in the place of each occurrence of a character. -/
def replace (char : Char) (replacement text : List Char) : List Char :=
  text.flatMap fun other => if other = char then replacement else [other]

/-- Escaping is two replacements. That of the backslashes comes first, since it would also double
those that the other one puts in. -/
theorem replace_replace (text : List Char) :
    replace '"' ['\\', '"'] (replace '\\' ['\\', '\\'] text) = text.flatMap escape := by
  rw [replace, replace, List.flatMap_assoc]
  refine List.flatMap_congr fun char _ => ?_
  by_cases marked : Marked char
  · rcases marked with rfl | rfl
    · rfl
    · rfl
  · have notBackslash : char ≠ '\\' := fun same => marked (.inr same)
    have notQuote : char ≠ '"' := fun same => marked (.inl same)
    rw [escape_of_not_marked marked, if_neg notBackslash, List.flatMap_singleton,
      if_neg notQuote]

/-! ### Escapes of code points -/

/-- Whether an escape for a code point begins in a text: a backslash with a `u` behind it, unless it
is itself behind a backslash with which it makes a pair. These escapes are undone everywhere in a
text, before it is divided into literals and all else. -/
def holdsUnicodeEscape : List Char → Bool
  | '\\' :: 'u' :: _ => true
  | '\\' :: _ :: rest => holdsUnicodeEscape rest
  | _ :: rest => holdsUnicodeEscape rest
  | [] => false

theorem holdsUnicodeEscape_cons {char : Char} (notBackslash : char ≠ '\\') (rest : List Char) :
    holdsUnicodeEscape (char :: rest) = holdsUnicodeEscape rest := by
  rw [holdsUnicodeEscape]
  · exact fun _ same _ => notBackslash same
  · exact fun _ _ same _ => notBackslash same

theorem holdsUnicodeEscape_append {before : List Char} (free : '\\' ∉ before) (rest : List Char) :
    holdsUnicodeEscape (before ++ rest) = holdsUnicodeEscape rest := by
  induction before with
  | nil => rfl
  | cons char before inductionHypothesis =>
    rw [List.mem_cons, not_or] at free
    rw [List.cons_append, holdsUnicodeEscape_cons (Ne.symm free.1), inductionHypothesis free.2]

theorem holdsUnicodeEscape_escape (text rest : List Char) :
    holdsUnicodeEscape (text.flatMap escape ++ rest) = holdsUnicodeEscape rest := by
  induction text with
  | nil => rfl
  | cons char text inductionHypothesis =>
    rw [List.flatMap_cons, List.append_assoc]
    by_cases marked : Marked char
    · rw [(escape_of_marked marked).1, ← inductionHypothesis]
      rcases marked with rfl | rfl
      · rfl
      · rfl
    · rw [escape_of_not_marked marked, List.singleton_append,
        holdsUnicodeEscape_cons fun same => marked (.inr same), inductionHypothesis]

theorem holdsUnicodeEscape_quote (text : String) (rest : List Char) :
    holdsUnicodeEscape ((quote text).toList ++ rest) = holdsUnicodeEscape rest := by
  rw [toList_quote, List.cons_append, List.append_assoc, holdsUnicodeEscape_cons (by decide),
    holdsUnicodeEscape_escape, List.singleton_append, holdsUnicodeEscape_cons (by decide)]

end StringLiteral

open StringLiteral (Spells Marked escape replace holdsUnicodeEscape)

/-! ### The literals in a line -/

/-- A literal in a line. -/
structure QuotedText where
  /-- What stands between the quotes. -/
  body : String
  /-- What it spells. -/
  text : String

/-- The literal that is written for a text. -/
def QuotedText.of (text : String) : QuotedText := ⟨String.ofList (text.toList.flatMap escape), text⟩

/-- A line is divided into literals and all else, in which no quote stands. -/
inductive Quotes (standsAlone : Char → Prop) : List Char → List QuotedText → Prop
  | nil : Quotes standsAlone [] []
  | other {char : Char} {rest : List Char} {literals : List QuotedText} (notQuote : char ≠ '"')
      (further : Quotes standsAlone rest literals) : Quotes standsAlone (char :: rest) literals
  | literal {body text : String} {rest : List Char} {literals : List QuotedText}
      (spelled : Spells standsAlone body.toList text.toList)
      (further : Quotes standsAlone rest literals) :
      Quotes standsAlone ('"' :: (body.toList ++ '"' :: rest)) (⟨body, text⟩ :: literals)

section Lines

variable {standsAlone : Char → Prop} {literals : List QuotedText}

theorem quotes_cons_iff {char : Char} (notQuote : char ≠ '"') (rest : List Char) :
    Quotes standsAlone (char :: rest) literals ↔ Quotes standsAlone rest literals := by
  constructor
  · generalize whole : char :: rest = source
    intro quotes
    cases quotes with
    | nil => cases whole
    | other _ further =>
      obtain ⟨_, rfl⟩ := List.cons.inj whole
      exact further
    | literal _ _ => exact absurd (List.cons.inj whole).1 notQuote
  · exact .other notQuote

theorem quotes_append_iff {before : List Char} (free : '"' ∉ before) (rest : List Char) :
    Quotes standsAlone (before ++ rest) literals ↔ Quotes standsAlone rest literals := by
  induction before with
  | nil => rfl
  | cons char before inductionHypothesis =>
    rw [List.mem_cons, not_or] at free
    rw [List.cons_append, quotes_cons_iff (Ne.symm free.1), inductionHypothesis free.2]

theorem quotes_of_free {rest : List Char} (free : '"' ∉ rest) :
    Quotes standsAlone rest literals ↔ literals = [] := by
  have whole : Quotes standsAlone (rest ++ []) literals ↔ Quotes standsAlone [] literals :=
    quotes_append_iff free []
  rw [← List.append_nil rest, whole]
  constructor
  · intro quotes
    cases quotes
    rfl
  · rintro rfl
    exact .nil

/-- Where a literal has been written for a text, it is found, and the line goes on behind it. -/
theorem quotes_quote_iff (text : String) (rest : List Char) :
    Quotes standsAlone ((StringLiteral.quote text).toList ++ rest) literals ↔
      (∀ char ∈ text.toList, Marked char ∨ standsAlone char) ∧
        ∃ further, literals = .of text :: further ∧ Quotes standsAlone rest further := by
  have written : (StringLiteral.quote text).toList ++ rest =
      '"' :: (text.toList.flatMap escape ++ '"' :: rest) := by
    rw [StringLiteral.toList_quote, List.cons_append, List.append_assoc, List.singleton_append]
  rw [written]
  constructor
  · generalize whole : '"' :: (text.toList.flatMap escape ++ '"' :: rest) = source
    intro quotes
    cases quotes with
    | nil => cases whole
    | other notQuote _ => exact absurd (List.cons.inj whole).1.symm notQuote
    | literal spelled further =>
      obtain ⟨bodySame, textSame, rfl, allowed⟩ := spelled.unique (List.cons.inj whole).2.symm
      refine ⟨allowed, _, ?_, further⟩
      rw [QuotedText.of, ← bodySame, String.ofList_toList, String.toList_inj.mp textSame]
  · rintro ⟨allowed, further, rfl, quotes⟩
    have spelled : Spells standsAlone (QuotedText.of text).body.toList text.toList := by
      rw [QuotedText.of, String.toList_ofList]
      exact StringLiteral.spells_escape allowed
    have whole := Quotes.literal spelled quotes
    rwa [QuotedText.of, String.toList_ofList] at whole

end Lines

/-! ### Line ends -/

/-- A character that ends no line. -/
def IsInline (char : Char) : Prop := char ≠ '\n' ∧ char ≠ '\r'

instance (char : Char) : Decidable (IsInline char) := inferInstanceAs (Decidable (_ ∧ _))

/-- A text without line ends. -/
def InOneLine (text : String) : Prop := ∀ char ∈ text.toList, IsInline char

instance (text : String) : Decidable (InOneLine text) := List.decidableBAll IsInline text.toList

/-- A literal is read in Java as the text that it is to spell. -/
structure QuotedText.Faithful (literal : QuotedText) : Prop where
  inOneLine : InOneLine literal.body
  spells_iff : ∀ text, Spells IsInline literal.body.toList text ↔ text = literal.text.toList

section LineEnds

variable {char : Char} {text : String}

theorem isInline_of_marked (marked : Marked char) : IsInline char := by
  rcases marked with rfl | rfl
  · exact ⟨by decide, by decide⟩
  · exact ⟨by decide, by decide⟩

theorem marked_or_isInline_iff : Marked char ∨ IsInline char ↔ IsInline char :=
  or_iff_right_of_imp isInline_of_marked

namespace QuotedText

/-- Escaping neither puts in line ends nor takes them out. -/
theorem inOneLine_body_iff : InOneLine (of text).body ↔ InOneLine text := by
  rw [InOneLine, of, String.toList_ofList]
  exact StringLiteral.forall_mem_escape_iff fun _ => isInline_of_marked

theorem spells_body_iff {standsAlone : Char → Prop} {other : List Char} :
    Spells standsAlone (of text).body.toList other ↔
      other = text.toList ∧ ∀ char ∈ text.toList, Marked char ∨ standsAlone char := by
  rw [of, String.toList_ofList]
  exact StringLiteral.spells_escape_iff

theorem faithful_iff : (of text).Faithful ↔ InOneLine text := by
  constructor
  · intro faithful
    exact inOneLine_body_iff.mp faithful.inOneLine
  · intro inOneLine
    refine ⟨inOneLine_body_iff.mpr inOneLine, fun other => ?_⟩
    rw [spells_body_iff]
    exact and_iff_left fun char member => .inr (inOneLine char member)

end QuotedText

end LineEnds

/-! ### The annotation -/

/-- What the annotation tells: the generator and, if it is given, the date. -/
def RenderOptions.told (options : RenderOptions) : List String :=
  options.generatorId :: options.date.toList

/-- The literals that are written for it. -/
def RenderOptions.quoted (options : RenderOptions) : List QuotedText := options.told.map .of

namespace GeneratedClass

theorem toList_generatedBy_undated (generatorId indent : String) :
    (generatedBy ⟨generatorId, none, indent⟩).toList =
      "@javax.annotation.Generated(".toList ++
        ((StringLiteral.quote generatorId).toList ++ ")".toList) := by
  simp only [generatedBy, String.toList_append, List.append_assoc]

theorem toList_generatedBy_dated (generatorId date indent : String) :
    (generatedBy ⟨generatorId, some date, indent⟩).toList =
      "@javax.annotation.Generated(value = ".toList ++
        ((StringLiteral.quote generatorId).toList ++ (", date = ".toList ++
          ((StringLiteral.quote date).toList ++ ")".toList))) := by
  simp only [generatedBy, String.toList_append, List.append_assoc]

/-- The literals that are found in the annotation are those that are written for what it tells. -/
theorem quotes_generatedBy_iff {standsAlone : Char → Prop} {literals : List QuotedText}
    (options : RenderOptions) :
    Quotes standsAlone (generatedBy options).toList literals ↔
      literals = options.quoted ∧
        ∀ text ∈ options.told, ∀ char ∈ text.toList, Marked char ∨ standsAlone char := by
  have closing : '"' ∉ ")".toList := by decide
  have between : '"' ∉ ", date = ".toList := by decide
  obtain ⟨generatorId, date, indent⟩ := options
  cases date with
  | none =>
    rw [toList_generatedBy_undated, quotes_append_iff (by decide), quotes_quote_iff]
    simp only [quotes_of_free closing, RenderOptions.quoted, RenderOptions.told,
      Option.toList_none, List.map_cons, List.map_nil, List.forall_mem_singleton,
      exists_eq_right]
    exact and_comm
  | some date =>
    rw [toList_generatedBy_dated, quotes_append_iff (by decide), quotes_quote_iff]
    simp only [quotes_append_iff between, quotes_quote_iff, quotes_of_free closing,
      RenderOptions.quoted, RenderOptions.told, Option.toList_some, List.map_cons, List.map_nil]
    constructor
    · rintro ⟨first, _, rfl, second, _, rfl, rfl⟩
      exact ⟨rfl, List.forall_mem_cons.mpr ⟨first, List.forall_mem_singleton.mpr second⟩⟩
    · rintro ⟨rfl, allowed⟩
      obtain ⟨first, further⟩ := List.forall_mem_cons.mp allowed
      exact ⟨first, _, rfl, List.forall_mem_singleton.mp further, _, rfl, rfl⟩

theorem holdsUnicodeEscape_generatedBy (options : RenderOptions) :
    holdsUnicodeEscape (generatedBy options).toList = false := by
  obtain ⟨generatorId, date, indent⟩ := options
  cases date with
  | none =>
    rw [toList_generatedBy_undated, StringLiteral.holdsUnicodeEscape_append (by decide),
      StringLiteral.holdsUnicodeEscape_quote]
    decide
  | some date =>
    rw [toList_generatedBy_dated, StringLiteral.holdsUnicodeEscape_append (by decide),
      StringLiteral.holdsUnicodeEscape_quote, StringLiteral.holdsUnicodeEscape_append (by decide),
      StringLiteral.holdsUnicodeEscape_quote]
    decide

end GeneratedClass

/-- How the annotation tells the generator and the date. -/
structure ToldByLiterals (options : RenderOptions) : Prop where
  /-- It is a line of the unit of any class. -/
  written : ∀ generated : GeneratedClass,
    LinesWithin (line (GeneratedClass.generatedBy options)) (generated.unitLines options)
  /-- No code point is escaped in it. -/
  noUnicodeEscape : holdsUnicodeEscape (GeneratedClass.generatedBy options).toList = false
  /-- If line ends may stand for themselves, it can be divided in one way: there is one literal for
  each text that it tells. -/
  divided_iff : ∀ literals,
    Quotes (fun _ => True) (GeneratedClass.generatedBy options).toList literals ↔
      literals = options.quoted
  /-- Between the quotes stands what two replacements give, … -/
  replaced : ∀ literal ∈ options.quoted, literal.body.toList =
    replace '"' ['\\', '"'] (replace '\\' ['\\', '\\'] literal.text.toList)
  /-- … which spells the text and nothing else. -/
  spells_iff : ∀ literal ∈ options.quoted, ∀ text,
    Spells (fun _ => True) literal.body.toList text ↔ text = literal.text.toList
  /-- In Java line ends may not; there a literal is faithful exactly if its text has none. -/
  faithful_iff : ∀ literal ∈ options.quoted, literal.Faithful ↔ InOneLine literal.text
  /-- So the annotation can be divided in Java exactly if nothing that it tells has a line end. -/
  dividedInJava_iff : ∀ literals,
    Quotes IsInline (GeneratedClass.generatedBy options).toList literals ↔
      literals = options.quoted ∧ ∀ text ∈ options.told, InOneLine text
  /-- Annotations that are alike tell the same. -/
  told_eq : ∀ other, GeneratedClass.generatedBy other = GeneratedClass.generatedBy options →
    other.told = options.told

namespace RenderOptions

variable {options : RenderOptions}

theorem mem_quoted_iff {literal : QuotedText} :
    literal ∈ options.quoted ↔ ∃ text ∈ options.told, QuotedText.of text = literal :=
  List.mem_map

theorem map_text_quoted : options.quoted.map (·.text) = options.told := by
  rw [quoted, List.map_map]
  exact List.map_id' options.told

theorem quotes_anything_iff {literals : List QuotedText} :
    Quotes (fun _ => True) (GeneratedClass.generatedBy options).toList literals ↔
      literals = options.quoted := by
  rw [GeneratedClass.quotes_generatedBy_iff]
  exact and_iff_left fun _ _ _ _ => .inr trivial

end RenderOptions

/-- Whatever the generator is called and whatever the date is, they are told in this way. -/
theorem toldByLiterals_generatedBy (options : RenderOptions) : ToldByLiterals options where
  written _ := .middle _ _ _
  noUnicodeEscape := GeneratedClass.holdsUnicodeEscape_generatedBy options
  divided_iff _ := RenderOptions.quotes_anything_iff
  replaced literal member := by
    obtain ⟨text, _, rfl⟩ := RenderOptions.mem_quoted_iff.mp member
    rw [StringLiteral.replace_replace]
    exact String.toList_ofList
  spells_iff literal member text := by
    obtain ⟨_, _, rfl⟩ := RenderOptions.mem_quoted_iff.mp member
    rw [QuotedText.spells_body_iff]
    exact and_iff_left fun _ _ => .inr trivial
  faithful_iff literal member := by
    obtain ⟨_, _, rfl⟩ := RenderOptions.mem_quoted_iff.mp member
    exact QuotedText.faithful_iff
  dividedInJava_iff literals := by
    rw [GeneratedClass.quotes_generatedBy_iff]
    simp only [marked_or_isInline_iff, InOneLine]
  told_eq other same := by
    have divided := RenderOptions.quotes_anything_iff.mpr (Eq.refl other.quoted)
    rw [same] at divided
    have sameQuoted := RenderOptions.quotes_anything_iff.mp divided
    rw [← RenderOptions.map_text_quoted, sameQuoted, RenderOptions.map_text_quoted]

/-- A configuration in which the environment calls the generator by a name of two lines. -/
def twoLineConfig : Config :=
  Config.default.override { Environment.none with generatorId := some "auto\npojo" }

/-- The name of the generator may have a line end. Then its literal is not faithful, and in Java the
annotation cannot be divided. -/
theorem literal_broken_twoLine :
    twoLineConfig.validate = .ok twoLineConfig ∧
      (∃ literals, Quotes (fun _ => True)
          (GeneratedClass.generatedBy (Round.options twoLineConfig "")).toList literals ∧
        ∃ literal ∈ literals, ¬literal.Faithful) ∧
      ¬∃ literals, Quotes IsInline
        (GeneratedClass.generatedBy (Round.options twoLineConfig "")).toList literals := by
  have broken : ¬InOneLine twoLineConfig.generatorId := by decide
  have told : twoLineConfig.generatorId ∈ (Round.options twoLineConfig "").told :=
    List.mem_cons_self
  have isQuoted : .of twoLineConfig.generatorId ∈ (Round.options twoLineConfig "").quoted :=
    List.mem_map_of_mem told
  have found : Quotes (fun _ => True)
      (GeneratedClass.generatedBy (Round.options twoLineConfig "")).toList
      (Round.options twoLineConfig "").quoted := RenderOptions.quotes_anything_iff.mpr rfl
  refine ⟨by decide, ⟨_, found, _, isQuoted, fun faithful => ?_⟩, ?_⟩
  · exact broken (QuotedText.faithful_iff.mp faithful)
  · rintro ⟨literals, divided⟩
    have allowed := (GeneratedClass.quotes_generatedBy_iff _).mp divided
    exact broken fun char member => marked_or_isInline_iff.mp (allowed.2 _ told char member)

end ValueGen
