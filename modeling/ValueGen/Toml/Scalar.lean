/-
This file reads the TOML values that are written without quotes or brackets: booleans, integers in
four bases, floating-point numbers, and dates and times. Digits may be grouped by single
underscores. A number that cannot be represented at all is refused: integers reach to the largest
unsigned and the least signed one of 128 bits, floating-point numbers must not round to infinity.
-/

import ValueGen.Json.Token
import ValueGen.Toml.Table

namespace ValueGen.Toml

/-! ### Integers -/

/-- The value of a digit in a base of at most sixteen. -/
def digitIn? (base : Nat) (char : Char) : Option Nat :=
  (JsonToken.hexDigit? char).filter (· < base)

/-- Takes the underscores out of a group of digits; each has to stand between two digits. -/
def ungroup? (chars : List Char) : Option (List Char) :=
  let parts := chars.splitBy fun first second => (first == '_') == (second == '_')
  if chars.head? = some '_' || chars.getLast? = some '_' || parts.contains ['_', '_'] ||
      parts.any (fun part => part.head? = some '_' && 1 < part.length) then none
  else some (chars.filter (· ≠ '_'))

/-- The natural number that digits in a base denote, with underscores between them. -/
def natural? (base : Nat) (chars : List Char) : Option Nat := do
  let digits ← ungroup? chars
  let values ← digits.mapM (digitIn? base)
  if values.isEmpty then none
  else some (values.foldl (fun total digit => base * total + digit) 0)

/-- The natural number that decimal digits denote; only zero itself starts with a zero. -/
def decimal? (chars : List Char) : Option Nat :=
  if chars.head? = some '0' && 1 < chars.length then none else natural? 10 chars

/-- Splits off a sign: whether it is a minus, and the rest. -/
def splitSign : List Char → Bool × List Char
  | '-' :: rest => (true, rest)
  | '+' :: rest => (false, rest)
  | chars => (false, chars)

/-- Reads an integer. A base is told by a zero and a letter and allows no sign. -/
def integer? (chars : List Char) : Option Int := do
  let value ←
    match chars with
    | '0' :: 'x' :: digits => (natural? 16 digits).map Int.ofNat
    | '0' :: 'o' :: digits => (natural? 8 digits).map Int.ofNat
    | '0' :: 'b' :: digits => (natural? 2 digits).map Int.ofNat
    | _ =>
      let (negative, digits) := splitSign chars
      (decimal? digits).map fun size => if negative then -(size : Int) else size
  if -Int.pow 2 127 ≤ value && value < Int.pow 2 128 then some value else none

/-! ### Floating-point numbers -/

/-- The digits of a text, as digits of a number. -/
def digits? (chars : List Char) : Option (List Digit) :=
  (ungroup? chars).bind (·.mapM JsonNumber.digit?)

/-- Reads an exponent after its letter. -/
def exponent? (chars : List Char) : Option Int := do
  let (negative, digits) := splitSign chars
  let size ← natural? 10 digits
  some (if negative then -(size : Int) else size)

/-- Reads a floating-point number: a whole part, and a point with digits, an exponent or both. -/
def number? (chars : List Char) : Option JsonNumber := do
  let (negative, chars) := splitSign chars
  let isExponent (char : Char) := char == 'e' || char == 'E'
  let mantissa := chars.takeWhile fun char => !isExponent char
  let whole ← decimal? (mantissa.takeWhile (· ≠ '.'))
  let fraction ←
    match mantissa.dropWhile (· ≠ '.') with
    | [] => pure []
    | _ :: rest => (digits? rest).filter (!·.isEmpty)
  let exponent ←
    match chars.dropWhile fun char => !isExponent char with
    | [] => pure none
    | _ :: rest => (exponent? rest).map some
  if fraction.isEmpty && exponent.isNone then none
  else some ⟨negative, whole, fraction, exponent⟩

/-- Whether a number is too large for a double: whether it lies half a unit above the largest
finite one, or higher. The comparison is exact; the number of digits settles it first unless it is
close to that of the bound, which has 309 digits. -/
def isTooLarge (number : JsonNumber) : Bool :=
  let significand :=
    number.fraction.foldl (fun total digit => 10 * total + digit.val) number.whole
  let scale : Int := number.exponent.getD 0 - number.fraction.length
  let magnitude := (Nat.toDigits 10 significand).length + scale
  if significand = 0 || magnitude < 300 then false
  else if 320 < magnitude then true
  else if 0 ≤ scale then JsonNumber.overflowBound ≤ significand * Nat.pow 10 scale.toNat
  else JsonNumber.overflowBound * Nat.pow 10 (-scale).toNat ≤ significand

/-- Whether a text is a floating-point number that can be represented. -/
def isFloat (chars : List Char) : Bool :=
  let (_, unsigned) := splitSign chars
  unsigned = ['i', 'n', 'f'] || unsigned = ['n', 'a', 'n'] ||
    (number? chars).any (!isTooLarge ·)

/-! ### Dates and times -/

/-- The number that exactly so many decimal digits denote, if it lies between two bounds. -/
def field? (digits low high : Nat) (chars : List Char) : Option (Nat × List Char) := do
  let values ← (chars.take digits).mapM JsonNumber.digit?
  let value := JsonNumber.valueOfDigits values
  if values.length = digits && low ≤ value && value ≤ high then
    some (value, chars.drop digits)
  else none

/-- Takes a character off the front of a text. -/
def skip? (expected : Char) : List Char → Option (List Char)
  | char :: rest => if char = expected then some rest else none
  | [] => none

/-- The number of days in a month. -/
def daysIn (year month : Nat) : Nat :=
  if month = 2 then
    if year % 4 = 0 && (year % 100 ≠ 0 || year % 400 = 0) then 29 else 28
  else if month = 4 || month = 6 || month = 9 || month = 11 then 30
  else 31

/-- Takes a date off the front of a text. -/
def date? (chars : List Char) : Option (List Char) := do
  let (year, rest) ← field? 4 0 9999 chars
  let rest ← skip? '-' rest
  let (month, rest) ← field? 2 1 12 rest
  let rest ← skip? '-' rest
  let (_, rest) ← field? 2 1 (daysIn year month) rest
  some rest

/-- Takes the seconds and their decimals off the front of a text, if there are any. -/
def seconds? (chars : List Char) : Option (List Char) :=
  match chars with
  | ':' :: rest => do
    let (_, rest) ← field? 2 0 60 rest
    match rest with
    | '.' :: digits =>
      if digits.head?.any Char.isDigit then some (digits.dropWhile Char.isDigit) else none
    | _ => some rest
  | _ => some chars

/-- Takes a time off the front of a text. -/
def time? (chars : List Char) : Option (List Char) := do
  let (_, rest) ← field? 2 0 23 chars
  let rest ← skip? ':' rest
  let (_, rest) ← field? 2 0 59 rest
  seconds? rest

/-- Takes an offset from universal time off the front of a text, if there is one. -/
def offset? (chars : List Char) : Option (List Char) :=
  match chars with
  | [] => some []
  | sign :: rest =>
    if sign = 'Z' || sign = 'z' then some rest
    else if sign = '+' || sign = '-' then do
      let (_, rest) ← field? 2 0 23 rest
      let rest ← skip? ':' rest
      let (_, rest) ← field? 2 0 59 rest
      some rest
    else none

/-- Whether a text is a date, a time, or a date and a time with an optional offset. -/
def isDatetime (chars : List Char) : Bool :=
  match date? chars with
  | some [] => true
  | some (separator :: rest) =>
    (separator = 'T' || separator = 't' || separator = ' ') &&
      ((time? rest).bind offset?) = some []
  | none => time? chars = some []

/-! ### All of them -/

/-- Reads a value that is written without quotes or brackets. -/
def scalar? (chars : List Char) : Option Toml :=
  if chars = ['t', 'r', 'u', 'e'] then some (bool true)
  else if chars = ['f', 'a', 'l', 's', 'e'] then some (bool false)
  else
    match integer? chars with
    | some value => some (integer value)
    | none =>
      if isFloat chars then some float
      else if isDatetime chars then some datetime
      else none

end ValueGen.Toml
