/-
This file holds JSON values as texts write them down: object fields keep their order and may
repeat a key, and a string literal may fail to denote a text because it holds an unpaired
surrogate escape. Readers of particular shapes decide what they make of either.
-/

namespace ValueGen

/-- A decimal digit. -/
abbrev Digit := Fin 10

/-- A JSON number as it is written: a sign, a whole part, the digits after the point and an
exponent of ten. -/
structure JsonNumber where
  negative : Bool
  whole : Nat
  fraction : List Digit
  exponent : Option Int
  deriving DecidableEq, Repr

/-- A JSON value. -/
inductive Json
  | null
  | bool (value : Bool)
  | number (value : JsonNumber)
  | string (text : String)
  /-- A string literal with an unpaired surrogate escape, which denotes no text. -/
  | unpaired
  | array (items : List Json)
  /-- A key is absent where its literal denotes no text. -/
  | object (fields : List (Option String × Json))
  deriving Repr, Inhabited

namespace JsonNumber

/-- The number that stands for a natural number: digits alone. -/
def ofNat (value : Nat) : JsonNumber := ⟨false, value, [], none⟩

/-- The natural number that digits alone denote; a sign, a point or an exponent makes a number
that is none. -/
def natural? (number : JsonNumber) : Option Nat :=
  if number.negative || !number.fraction.isEmpty || number.exponent.isSome then none
  else some number.whole

/-! ### Size

A number is read as a double in three steps, each of which rounds: as many of its digits as fit 64
bits are taken as they stand, the power of ten that makes up for the point, for digits that did
not fit and for the exponent is another double, and the two are multiplied. -/

/-- Half a unit above the largest finite double: what reaches it is rounded to infinity. -/
def overflowBound : Nat := (Nat.pow 2 54 - 1) * Nat.pow 2 970

/-- Rounds to 53 significant bits; a tie goes to the even neighbour. -/
def roundToDouble (value : Nat) : Nat :=
  let unit := Nat.pow 2 (value.log2 - 52)
  let below := value / unit
  let rest := value % unit
  if unit < 2 * rest || (unit = 2 * rest && below % 2 = 1) then (below + 1) * unit
  else below * unit

/-- The leading digits of a natural number that fit 64 bits, and the number of those after them. -/
def leadingDigits (value : Nat) : Nat × Nat :=
  if value < Nat.pow 2 64 then (value, 0)
  else
    let (leading, dropped) := leadingDigits (value / 10)
    (leading, dropped + 1)
termination_by value
decreasing_by
  have large : ¬value < 0x10000000000000000 := by assumption
  omega

/-- Appends digits to a number as long as it fits 64 bits, and counts them. -/
def appendDigits (value : Nat) : List Digit → Nat × Nat
  | [] => (value, 0)
  | digit :: rest =>
    if 10 * value + digit.val < Nat.pow 2 64 then
      let (longer, appended) := appendDigits (10 * value + digit.val) rest
      (longer, appended + 1)
    else (value, 0)

/-- The largest power of ten that is a finite double. -/
def largestPower : Nat := 308

/-- Whether the number is read as an infinite double. -/
def overflows (number : JsonNumber) : Bool :=
  let (leading, dropped) := leadingDigits number.whole
  let (significand, appended) := appendDigits leading number.fraction
  let scale := number.exponent.getD 0 + dropped - appended
  if significand = 0 || scale < 0 then false
  else if largestPower < scale then true
  else overflowBound ≤ roundToDouble significand * roundToDouble (Nat.pow 10 scale.toNat)

end JsonNumber

namespace Json

/-- The number that stands for a natural number. -/
def ofNat (value : Nat) : Json := number (.ofNat value)

/-- The array of some texts. -/
def texts (values : List String) : Json := array (values.map string)

/-- The object with the given fields in the given order. -/
def record (fields : List (String × Json)) : Json :=
  object (fields.map fun field => (some field.1, field.2))

mutual

/-- How deep arrays and objects are nested; a scalar has depth zero. -/
def depth : Json → Nat
  | array items => depthOfItems items + 1
  | object fields => depthOfFields fields + 1
  | _ => 0

/-- The depth of the deepest item. -/
def depthOfItems : List Json → Nat
  | [] => 0
  | item :: rest => max item.depth (depthOfItems rest)

/-- The depth of the deepest field. -/
def depthOfFields : List (Option String × Json) → Nat
  | [] => 0
  | (_, value) :: rest => max value.depth (depthOfFields rest)

end

mutual

/-- Whether every literal in the value denotes something: each string and key a text, each number
a finite double. -/
def isSound : Json → Bool
  | number value => !value.overflows
  | unpaired => false
  | array items => areSound items
  | object fields => fieldsAreSound fields
  | _ => true

/-- Whether every item is sound. -/
def areSound : List Json → Bool
  | [] => true
  | item :: rest => item.isSound && areSound rest

/-- Whether every key and every value is sound. -/
def fieldsAreSound : List (Option String × Json) → Bool
  | [] => true
  | (key, value) :: rest => key.isSome && value.isSound && fieldsAreSound rest

end

end Json

end ValueGen
