/-
This file splits a JSON text into tokens. Spaces, tabs and line ends between tokens are skipped;
everything else has to belong to a token, and a string literal may hold no raw control character.
A number is first cut out as a run of the characters numbers are made of and then read, which is
no loss: in JSON no two numbers ever stand side by side.
-/

import ValueGen.Json.Basic

namespace ValueGen

/-- A token of JSON. -/
inductive JsonToken
  | openBrace
  | closeBrace
  | openBracket
  | closeBracket
  | colon
  | comma
  | null
  | bool (value : Bool)
  | number (value : JsonNumber)
  /-- The text is absent where the literal holds an unpaired surrogate. -/
  | string (text : Option String)
  deriving DecidableEq, Repr

namespace JsonNumber

/-- The value of a decimal digit. -/
def digit? (char : Char) : Option Digit :=
  if char.isDigit then some (Fin.ofNat 10 (char.toNat - 48)) else none

/-- The natural number that digits denote, most significant first. -/
def valueOfDigits (digits : List Digit) : Nat :=
  digits.foldl (fun total digit => 10 * total + digit.val) 0

/-- Reads an exponent after its letter: an optional sign and at least one digit. -/
def readExponent? (chars : List Char) : Option Int :=
  match chars with
  | [] => none
  | '+' :: digits => if digits.isEmpty then none else (value? digits).map Int.ofNat
  | '-' :: digits => if digits.isEmpty then none else (value? digits).map fun size => -size
  | digits => (value? digits).map Int.ofNat
where
  /-- The value of a text of nothing but digits. -/
  value? (digits : List Char) : Option Nat := (digits.mapM digit?).map valueOfDigits

/-- Reads a number: an optional minus; a whole part that starts with zero only if it is zero; a
point and at least one digit, if there is a point; an exponent, if there is one. -/
def read? (chars : List Char) : Option JsonNumber := do
  let negative := chars.head? = some '-'
  let chars := if negative then chars.tail else chars
  let mantissa := chars.takeWhile fun char => char ≠ 'e' && char ≠ 'E'
  let whole ← (mantissa.takeWhile (· ≠ '.')).mapM digit?
  let fraction ← ((mantissa.dropWhile (· ≠ '.')).drop 1).mapM digit?
  let exponent ←
    match chars.dropWhile fun char => char ≠ 'e' && char ≠ 'E' with
    | [] => pure none
    | _ :: rest => (readExponent? rest).map some
  if whole = [] || (whole.head? = some 0 && whole ≠ [0]) || mantissa.getLast? = some '.' then none
  else pure ⟨negative, valueOfDigits whole, fraction, exponent⟩

end JsonNumber

namespace JsonToken

/-! ### Strings -/

/-- The value of a hexadecimal digit. -/
def hexDigit? (char : Char) : Option Nat :=
  if char.isDigit then some (char.toNat - 48)
  else if 'a' ≤ char && char ≤ 'f' then some (char.toNat - 87)
  else if 'A' ≤ char && char ≤ 'F' then some (char.toNat - 55)
  else none

/-- The code unit that four hexadecimal digits denote. -/
def codeUnit? (first second third fourth : Char) : Option Nat := do
  let first ← hexDigit? first
  let second ← hexDigit? second
  let third ← hexDigit? third
  let fourth ← hexDigit? fourth
  pure (((first * 16 + second) * 16 + third) * 16 + fourth)

/-- The character that a one-letter escape stands for. -/
def escaped? : Char → Option Char
  | '"' => some '"'
  | '\\' => some '\\'
  | '/' => some '/'
  | 'b' => some '\x08'
  | 'f' => some '\x0c'
  | 'n' => some '\n'
  | 'r' => some '\r'
  | 't' => some '\t'
  | _ => none

/-- Reads a string literal after its opening quote, into code points among which surrogates may
still stand alone, and gives what follows the closing quote. -/
def takeString : List Char → Option (List Nat × List Char)
  | [] => none
  | '"' :: rest => some ([], rest)
  | '\\' :: 'u' :: first :: second :: third :: fourth :: rest => do
    let unit ← codeUnit? first second third fourth
    let (codes, rest) ← takeString rest
    pure (unit :: codes, rest)
  | '\\' :: letter :: rest => do
    let char ← escaped? letter
    let (codes, rest) ← takeString rest
    pure (char.toNat :: codes, rest)
  | char :: rest =>
    if char.toNat < 0x20 || char = '\\' then none
    else do
      let (codes, rest) ← takeString rest
      pure (char.toNat :: codes, rest)

/-- Joins each high surrogate with the low one after it into the character they encode; nothing
where a surrogate stands alone. -/
def pairSurrogates : List Nat → Option (List Char)
  | [] => some []
  | [code] => if 0xD800 ≤ code && code ≤ 0xDFFF then none else some [Char.ofNat code]
  | code :: next :: rest =>
    if 0xD800 ≤ code && code ≤ 0xDBFF then
      if 0xDC00 ≤ next && next ≤ 0xDFFF then
        (pairSurrogates rest).map
          (Char.ofNat (0x10000 + (code - 0xD800) * 0x400 + (next - 0xDC00)) :: ·)
      else none
    else if 0xDC00 ≤ code && code ≤ 0xDFFF then none
    else (pairSurrogates (next :: rest)).map (Char.ofNat code :: ·)

/-- What follows a string literal is shorter than the literal and what follows it. -/
theorem takeString_length {chars : List Char} {codes : List Nat} {rest : List Char}
    (taken : takeString chars = some (codes, rest)) : rest.length < chars.length := by
  fun_induction takeString chars generalizing codes rest with
  | case1 => simp at taken
  | case2 tail => simp_all
  | case3 first second third fourth tail inductionHypothesis =>
    simp only [bind, Option.bind_eq_some_iff, pure] at taken
    obtain ⟨_, _, ⟨inner, _⟩, found, equal⟩ := taken
    have shorter := inductionHypothesis found
    simp_all only [Option.some.injEq, Prod.mk.injEq, List.length_cons]
    omega
  | case4 letter tail _ inductionHypothesis =>
    simp only [bind, Option.bind_eq_some_iff, pure] at taken
    obtain ⟨_, _, ⟨inner, _⟩, found, equal⟩ := taken
    have shorter := inductionHypothesis found
    simp_all only [Option.some.injEq, Prod.mk.injEq, List.length_cons]
    omega
  | case5 => simp at taken
  | case6 char tail _ _ _ _ inductionHypothesis =>
    simp only [bind, Option.bind_eq_some_iff, pure] at taken
    obtain ⟨⟨inner, _⟩, found, equal⟩ := taken
    have shorter := inductionHypothesis found
    simp_all only [Option.some.injEq, Prod.mk.injEq, List.length_cons]
    omega

/-! ### Splitting a text -/

/-- White space of JSON. -/
def isSpace (char : Char) : Bool :=
  char = ' ' || char = '\t' || char = '\n' || char = '\r'

/-- The characters that numbers are made of. -/
def isNumberChar (char : Char) : Bool :=
  char.isDigit || char = '-' || char = '+' || char = '.' || char = 'e' || char = 'E'

/-- The token that is a single character. -/
def mark? : Char → Option JsonToken
  | '\x7b' => some openBrace
  | '\x7d' => some closeBrace
  | '[' => some openBracket
  | ']' => some closeBracket
  | ':' => some colon
  | ',' => some comma
  | _ => none

/-- The token that a lower-case word is. -/
def word? (letters : List Char) : Option JsonToken :=
  if letters = ['n', 'u', 'l', 'l'] then some null
  else if letters = ['t', 'r', 'u', 'e'] then some (bool true)
  else if letters = ['f', 'a', 'l', 's', 'e'] then some (bool false)
  else none

/-- The tokens of a text, or nothing if it does not consist of tokens. -/
def scan : List Char → Option (List JsonToken)
  | [] => some []
  | char :: rest =>
    if isSpace char then scan rest
    else if char = '"' then
      match found : takeString rest with
      | some (codes, after) => do
        have : after.length < rest.length := takeString_length found
        let tokens ← scan after
        pure (string ((pairSurrogates codes).map String.ofList) :: tokens)
      | none => none
    else
      match mark? char with
      | some token => (scan rest).map (token :: ·)
      | none =>
        if char.isLower then do
          have := (List.dropWhile_sublist Char.isLower (l := rest)).length_le
          let token ← word? (char :: rest.takeWhile Char.isLower)
          let tokens ← scan (rest.dropWhile Char.isLower)
          pure (token :: tokens)
        else do
          have := (List.dropWhile_sublist isNumberChar (l := rest)).length_le
          let value ← JsonNumber.read? (char :: rest.takeWhile isNumberChar)
          let tokens ← scan (rest.dropWhile isNumberChar)
          pure (number value :: tokens)
termination_by chars => chars.length

end JsonToken

end ValueGen
