/-
This file says how a text splits into tokens, character by character: white space is dropped,
seven characters are tokens of their own, and an identifier takes up as many characters as it can.
A text splits in at most one way. The scanner finds that way, whatever offset it counts from, and
fails exactly where there is none.
-/

import ValueGen.Proofs.Outcomes
import ValueGen.TypeExpr.Token

namespace ValueGen

namespace Text

/-- The code points of white space. -/
def whiteSpaceCodes : List Nat :=
  [0x09, 0x0A, 0x0B, 0x0C, 0x0D, 0x20, 0x85, 0xA0, 0x1680, 0x2000, 0x2001, 0x2002, 0x2003, 0x2004,
    0x2005, 0x2006, 0x2007, 0x2008, 0x2009, 0x200A, 0x2028, 0x2029, 0x202F, 0x205F, 0x3000]

theorem toNat_mem_whiteSpaceCodes {char : Char} (white : isWhiteSpace char) :
    char.toNat ∈ whiteSpaceCodes := by
  simp only [isWhiteSpace, Bool.or_eq_true, Bool.and_eq_true, decide_eq_true_eq,
    beq_iff_eq] at white
  simp only [whiteSpaceCodes, List.mem_cons, List.not_mem_nil, or_false]
  omega

end Text

namespace TypeToken

/-! ### What tokens look like -/

/-- Whether a text is an identifier. -/
def IsIdentifier (text : String) : Prop :=
  ∃ first others, text.toList = first :: others ∧ startsIdentifier first ∧
    ∀ char ∈ others, continuesIdentifier char

/-- The tokens that are a single character. -/
def marks : List TypeToken :=
  [less, greater, comma, question, openBracket, closeBracket, dot]

/-- Whether an identifier cannot go on with the text. -/
def EndsIdentifier (rest : List Char) : Prop :=
  ∀ char ∈ rest.head?, continuesIdentifier char = false

/-- How a text splits into tokens. -/
inductive Splits : List Char → List TypeToken → Prop
  | done : Splits [] []
  /-- White space is dropped. -/
  | blank {char : Char} {rest : List Char} {tokens : List TypeToken}
    (white : Text.isWhiteSpace char) (later : Splits rest tokens) : Splits (char :: rest) tokens
  /-- Seven characters are tokens. -/
  | mark {token : TypeToken} {rest : List Char} {tokens : List TypeToken}
    (isMark : token ∈ marks) (later : Splits rest tokens) :
    Splits (token.text.toList ++ rest) (token :: tokens)
  /-- An identifier does not end where it could go on. -/
  | word {text : String} {rest : List Char} {tokens : List TypeToken}
    (isIdentifier : IsIdentifier text) (maximal : EndsIdentifier rest)
    (later : Splits rest tokens) : Splits (text.toList ++ rest) (identifier text :: tokens)

/-! ### Classes of characters -/

/-- No identifier starts with white space. -/
theorem startsIdentifier_of_isWhiteSpace {char : Char} (white : Text.isWhiteSpace char) :
    startsIdentifier char = false := by
  have table : ∀ code ∈ Text.whiteSpaceCodes, startsIdentifier (Char.ofNat code) = false := by
    decide +kernel
  have listed := table char.toNat (Text.toNat_mem_whiteSpaceCodes white)
  rwa [Char.ofNat_toNat] at listed

theorem isWhiteSpace_of_startsIdentifier {char : Char} (starts : startsIdentifier char) :
    Text.isWhiteSpace char = false := by
  cases white : Text.isWhiteSpace char with
  | false => rfl
  | true => exact absurd starts (by rw [startsIdentifier_of_isWhiteSpace white]; decide)

/-- A mark is written as one character, which is no white space and belongs to no identifier. -/
theorem exists_char_of_mem_marks {token : TypeToken} (isMark : token ∈ marks) :
    ∃ char, token.text.toList = [char] ∧ mark? char = some token ∧
      Text.isWhiteSpace char = false ∧ startsIdentifier char = false ∧
        continuesIdentifier char = false := by
  have table : ∀ token ∈ marks, token.text.toList ≠ [] ∧ token.text.toList.all fun char =>
      token.text.toList = [char] ∧ mark? char = some token ∧ Text.isWhiteSpace char = false ∧
        startsIdentifier char = false ∧ continuesIdentifier char = false := by
    decide +kernel
  obtain ⟨nonempty, all⟩ := table token isMark
  obtain ⟨char, member⟩ := List.exists_mem_of_ne_nil _ nonempty
  exact ⟨char, of_decide_eq_true (List.all_eq_true.mp all char member)⟩

theorem of_mark?_eq_some {char : Char} {token : TypeToken} (found : mark? char = some token) :
    token ∈ marks ∧ token.text.toList = [char] := by
  unfold mark? at found
  split at found
  case h_8 => cases found
  all_goals
    obtain rfl := Option.some.inj found
    decide

/-- An identifier goes as far as it can. -/
theorem isIdentifier_takeWhile {char : Char} (starts : startsIdentifier char) (rest : List Char) :
    IsIdentifier (String.ofList (char :: rest.takeWhile continuesIdentifier)) :=
  ⟨char, _, String.toList_ofList, starts, fun _ => List.all_eq_true.mp List.all_takeWhile _⟩

theorem endsIdentifier_dropWhile (rest : List Char) :
    EndsIdentifier (rest.dropWhile continuesIdentifier) := by
  intro next isNext
  have stopped := List.head?_dropWhile_not continuesIdentifier rest
  rw [Option.mem_def.mp isNext] at stopped
  exact stopped

/-! ### The scanner, token by token -/

section Scan

variable {offset : Nat} {char : Char} {rest : List Char}

theorem scan_nil (offset : Nat) : scan offset [] = .ok [] := by
  rw [scan.eq_def]

theorem scan_of_isWhiteSpace (white : Text.isWhiteSpace char) :
    scan offset (char :: rest) = scan (offset + char.utf8Size) rest := by
  rw [scan.eq_def]
  exact if_pos white

theorem scan_of_startsIdentifier (starts : startsIdentifier char) :
    scan offset (char :: rest) =
      (scan (offset + byteLength (char :: rest.takeWhile continuesIdentifier))
        (rest.dropWhile continuesIdentifier)).map
          (⟨offset,
            identifier (String.ofList (char :: rest.takeWhile continuesIdentifier))⟩ :: ·) := by
  rw [scan.eq_def]
  exact (if_neg (ne_true_of_eq_false (isWhiteSpace_of_startsIdentifier starts))).trans
    (if_pos starts)

theorem scan_of_other (notWhite : ¬ Text.isWhiteSpace char) (notStart : ¬ startsIdentifier char) :
    scan offset (char :: rest) =
      match mark? char with
      | some token => (scan (offset + char.utf8Size) rest).map (⟨offset, token⟩ :: ·)
      | none => .error (offset, char) := by
  rw [scan.eq_def]
  exact (if_neg notWhite).trans (if_neg notStart)

theorem scan_of_mark {token : TypeToken} (isMark : token ∈ marks) :
    scan offset (token.text.toList ++ rest) =
      (scan (offset + byteLength token.text.toList) rest).map (⟨offset, token⟩ :: ·) := by
  obtain ⟨char, spelled, found, notWhite, notStart, -⟩ := exists_char_of_mem_marks isMark
  rw [spelled, List.singleton_append, scan_of_other (ne_true_of_eq_false notWhite)
    (ne_true_of_eq_false notStart), found]
  rfl

theorem scan_of_identifier {text : String} (isIdentifier : IsIdentifier text)
    (maximal : EndsIdentifier rest) :
    scan offset (text.toList ++ rest) =
      (scan (offset + byteLength text.toList) rest).map (⟨offset, identifier text⟩ :: ·) := by
  obtain ⟨first, others, spelled, starts, continues⟩ := isIdentifier
  have stops : rest.takeWhile continuesIdentifier = [] ∧
      rest.dropWhile continuesIdentifier = rest := by
    cases rest with
    | nil => exact ⟨rfl, rfl⟩
    | cons next later =>
      have ends : continuesIdentifier next = false := maximal next rfl
      rw [List.takeWhile_cons, List.dropWhile_cons, ends]
      exact ⟨rfl, rfl⟩
  have taken : (others ++ rest).takeWhile continuesIdentifier = others := by
    rw [List.takeWhile_append_of_pos continues, stops.1, List.append_nil]
  have left : (others ++ rest).dropWhile continuesIdentifier = rest := by
    rw [List.dropWhile_append_of_pos continues, stops.2]
  have whole : String.ofList (first :: others) = text := by
    rw [← spelled, String.ofList_toList]
  rw [spelled, List.cons_append, scan_of_startsIdentifier starts, taken, left, whole]

end Scan

/-! ### The scanner finds the one way to split a text -/

/-- What the scanner finds is a way to split the text. -/
theorem splits_of_scan {offset : Nat} {chars : List Char} {lexemes : List TypeLexeme}
    (scanned : scan offset chars = .ok lexemes) : Splits chars (lexemes.map (·.token)) := by
  induction offset, chars using scan.induct generalizing lexemes with
  | case1 offset =>
    rw [scan_nil] at scanned
    cases scanned
    exact .done
  | case2 offset char rest white inductionHypothesis =>
    rw [scan_of_isWhiteSpace white] at scanned
    exact .blank white (inductionHypothesis scanned)
  | case3 offset char rest notWhite starts word _ =>
    rename_i inductionHypothesis
    rw [scan_of_startsIdentifier starts] at scanned
    obtain ⟨others, found, rfl⟩ := exists_of_map_eq_ok scanned
    have split := Splits.word (isIdentifier_takeWhile starts rest) (endsIdentifier_dropWhile rest)
      (inductionHypothesis found)
    rw [String.toList_ofList, List.cons_append, List.takeWhile_append_dropWhile] at split
    exact split
  | case4 offset char rest notWhite notStart token found inductionHypothesis =>
    rw [scan_of_other notWhite notStart, found] at scanned
    obtain ⟨others, later, rfl⟩ := exists_of_map_eq_ok scanned
    obtain ⟨isMark, spelled⟩ := of_mark?_eq_some found
    have split := Splits.mark isMark (inductionHypothesis later)
    rw [spelled] at split
    exact split
  | case5 offset char rest notWhite notStart missing =>
    rw [scan_of_other notWhite notStart, missing] at scanned
    cases scanned

/-- The scanner finds each way to split a text. -/
theorem Splits.scan {chars : List Char} {tokens : List TypeToken} (splits : Splits chars tokens)
    (offset : Nat) :
    ∃ lexemes, TypeToken.scan offset chars = .ok lexemes ∧ lexemes.map (·.token) = tokens := by
  induction splits generalizing offset with
  | done => exact ⟨[], scan_nil offset, rfl⟩
  | @blank char rest tokens white _ inductionHypothesis =>
    rw [scan_of_isWhiteSpace white]
    exact inductionHypothesis _
  | @mark token rest tokens isMark _ inductionHypothesis =>
    obtain ⟨lexemes, found, rfl⟩ := inductionHypothesis (offset + byteLength token.text.toList)
    exact ⟨⟨offset, token⟩ :: lexemes, by rw [scan_of_mark isMark, found]; rfl, rfl⟩
  | @word text rest tokens isIdentifier maximal _ inductionHypothesis =>
    obtain ⟨lexemes, found, rfl⟩ := inductionHypothesis (offset + byteLength text.toList)
    refine ⟨⟨offset, identifier text⟩ :: lexemes, ?_, rfl⟩
    rw [scan_of_identifier isIdentifier maximal, found]
    rfl

/-- A text splits in at most one way. -/
theorem Splits.unique {chars : List Char} {first second : List TypeToken}
    (one : Splits chars first) (other : Splits chars second) : first = second := by
  obtain ⟨lexemes, found, rfl⟩ := one.scan 0
  obtain ⟨_, again, rfl⟩ := other.scan 0
  rw [Except.ok.inj (found.symm.trans again)]

end TypeToken

end ValueGen
