/-
This file says that string literals are read as they are written. A character is written as itself
or as one of three kinds of escapes, and each of them is read as the code point of the character.
No character is a surrogate, so the code points of a text are never paired.
-/

import ValueGen.Json.Printer
import ValueGen.Json.Token

namespace ValueGen.JsonToken

/-! ### Escapes -/

/-- What is left to take behind a character. -/
def behind (code : Nat) : List Nat × List Char → List Nat × List Char :=
  fun (codes, rest) => (code :: codes, rest)

theorem takeString_letter {letter char : Char} (letterOther : letter ≠ 'u')
    (isEscape : escaped? letter = some char) (rest : List Char) :
    takeString ('\\' :: letter :: rest) = (takeString rest).map (behind char.toNat) := by
  rw [takeString]
  · rw [isEscape]
    cases takeString rest <;> rfl
  · exact fun _ _ _ _ _ same _ => letterOther same

theorem takeString_unit {first second third fourth : Char} {unit : Nat}
    (isUnit : codeUnit? first second third fourth = some unit) (rest : List Char) :
    takeString ('\\' :: 'u' :: first :: second :: third :: fourth :: rest) =
      (takeString rest).map (behind unit) := by
  rw [takeString, isUnit]
  cases takeString rest <;> rfl

theorem takeString_plain {char : Char} (notQuote : char ≠ '"') (notBackslash : char ≠ '\\')
    (notControl : ¬ char.toNat < 0x20) (rest : List Char) :
    takeString (char :: rest) = (takeString rest).map (behind char.toNat) := by
  rw [takeString]
  · rw [if_neg (by simp [notControl, notBackslash])]
    cases takeString rest <;> rfl
  · exact notQuote
  · exact fun _ _ _ _ _ same _ => notBackslash same
  · exact fun _ _ same _ => notBackslash same

/-- Two hexadecimal digits are enough for a control character. -/
theorem codeUnit?_of_control : ∀ code < 0x20,
    codeUnit? '0' '0' (hexDigit (code / 16)) (hexDigit (code % 16)) = some code := by
  decide

/-- Whatever way a character is written in, it is read as its code point. -/
theorem takeString_escape (char : Char) (rest : List Char) :
    takeString ((Json.escape char).toList ++ rest) =
      (takeString rest).map (behind char.toNat) := by
  unfold Json.escape
  split
  case h_8 notQuote notBackslash _ _ _ _ _ =>
    split
    · rename_i control
      rw [String.toList_append, String.toList_ofList, String.toList_ofList]
      exact takeString_unit (codeUnit?_of_control _ control) rest
    · rename_i notControl
      rw [String.toList_ofList]
      exact takeString_plain notQuote notBackslash notControl rest
  -- all others are escaped by a letter
  all_goals exact takeString_letter (by decide) rfl rest

/-! ### Literals -/

theorem toList_quote (text : String) :
    (Json.quote text).toList =
      '"' :: (text.toList.flatMap (fun char => (Json.escape char).toList) ++ ['"']) := by
  rw [Json.quote, String.toList_append, String.toList_append, String.toList_join, List.flatMap_map]
  rfl

/-- A literal is read up to its closing quote. -/
theorem takeString_quote (chars rest : List Char) :
    takeString (chars.flatMap (fun char => (Json.escape char).toList) ++ '"' :: rest) =
      some (chars.map Char.toNat, rest) := by
  induction chars with
  | nil => rw [List.flatMap_nil, List.nil_append, takeString, List.map_nil]
  | cons char chars inductionHypothesis =>
    rw [List.flatMap_cons, List.append_assoc, takeString_escape, inductionHypothesis]
    rfl

/-- No character is a surrogate. -/
theorem not_surrogate (char : Char) : ¬ (0xD800 ≤ char.toNat ∧ char.toNat ≤ 0xDFFF) := by
  have valid : char.toNat < 0xD800 ∨ 0xDFFF < char.toNat ∧ char.toNat < 0x110000 := char.valid
  omega

/-- The code points of a text are never paired. -/
theorem pairSurrogates_map_toNat (chars : List Char) :
    pairSurrogates (chars.map Char.toNat) = some chars := by
  induction chars with
  | nil => rfl
  | cons char rest inductionHypothesis =>
    have alone := not_surrogate char
    cases rest with
    | nil =>
      rw [List.map_cons, List.map_nil, pairSurrogates, if_neg (by simpa using alone),
        Char.ofNat_toNat]
    | cons next rest =>
      have notHigh : ¬ (0xD800 ≤ char.toNat ∧ char.toNat ≤ 0xDBFF) := by omega
      have notLow : ¬ (0xDC00 ≤ char.toNat ∧ char.toNat ≤ 0xDFFF) := by omega
      rw [List.map_cons, List.map_cons, pairSurrogates, ← List.map_cons, inductionHypothesis,
        if_neg (by simpa using notHigh), if_neg (by simpa using notLow), Option.map_some,
        Char.ofNat_toNat]

end ValueGen.JsonToken
