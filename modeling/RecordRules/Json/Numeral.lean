import RecordRules.Json.Reader

/-!
# Numbers of a document

A number is an optional minus sign, an integer without idle zeros at its front, an optional
fraction and an optional power of ten. An integer that fits the machine stays an integer.

Every other number is rounded from a *significand* of 64 bits. Digits are taken into it as long
as it does not overflow. A digit of the integer that is left out counts for the power of ten, and
a digit of the fraction that is taken in counts against it. The value is the significand as a
double, multiplied or divided once by the double nearest to the power of ten. That is not always
the double nearest to the number as it is written.
-/

namespace RecordRules.Json

open Number

/-- A number of a document: an integer of 64 bits, or a double. -/
inductive Numeral
  | integer (value : Int)
  | floating (value : Binary64)
  deriving DecidableEq

/-- The number as a double. -/
def Numeral.toBinary64 : Numeral → Binary64
  | integer value => .ofInt value
  | floating value => value

/-- The significand with the digits it can take, and how many those are. -/
def absorb (significand : Nat) : List Char → Nat × Nat
  | [] => (significand, 0)
  | digit :: digits =>
    let larger := 10 * significand + (digit.toNat - '0'.toNat)
    if larger < 1 <<< 64 then
      let (final, count) := absorb larger digits
      (final, count + 1)
    else (significand, 0)

/-- The double nearest to a power of ten within the range of doubles. -/
def powerOfTen (power : Nat) : Option Magnitude := Decimal.nearest? ⟨1, power⟩

/-- The magnitude divided by ten to the 308 a number of times, until nothing is left of it. -/
def divideRepeatedly : Nat → Magnitude → Option Magnitude
  | 0, magnitude => some magnitude
  | times + 1, magnitude =>
    if magnitude = .zero then some .zero
    else do
      let divisor ← powerOfTen 308
      divideRepeatedly times (← magnitude.over? divisor)

/-- The magnitude divided by ten to the `power`. Of a power beyond 308 as many times 308 are
divided off first as leave a power that is not zero. -/
def scaleDown (magnitude : Magnitude) (power : Nat) : Option Magnitude := do
  let times := (power - 1) / 308
  let magnitude ← divideRepeatedly times magnitude
  magnitude.over? (← powerOfTen (power - 308 * times))

/-- The magnitude of a significand with a power of ten, or nothing if it is out of range. -/
def scale (significand : Nat) (power : Int) : Option Magnitude := do
  let magnitude ← Magnitude.ofNat? significand
  if power < 0 then scaleDown magnitude (-power).toNat
  else if power ≤ 308 then magnitude.times? (← powerOfTen power.toNat)
  else if magnitude = .zero then some .zero
  else none

/-- The number with this significand and power of ten, read up to `rest`. -/
def finishNumber (negative : Bool) (significand : Nat) (power : Int) : Reader Numeral :=
  fun rest =>
    match scale significand power with
    | some magnitude => .ok (.floating (.finite negative magnitude), rest)
    | none => .error (.behind .numberOutOfRange rest)

/-- The digits of a written power of ten that fit a signed integer of 32 bits, as far as they
do: the value so far, and the text behind it. -/
def readPowerDigits (value : Nat) : List Char → Except (List Char) (Nat × List Char)
  | [] => .ok (value, [])
  | digit :: rest =>
    if digit.isDigit then
      let larger := 10 * value + (digit.toNat - '0'.toNat)
      if larger < 1 <<< 31 then readPowerDigits larger rest else .error rest
    else .ok (value, digit :: rest)

/-- A written power of ten behind its mark. One that does not fit 32 bits is out of range if it
is positive and there is a significand, and makes a zero otherwise. -/
def readPower (negative : Bool) (significand : Nat) (power : Int) : Reader Numeral := fun text =>
  let minus := text.head? = some '-'
  let text := if text.head? = some '-' ∨ text.head? = some '+' then text.tail else text
  match text with
  | [] => .error (.behind .endInValue [])
  | digit :: rest =>
    if digit.isDigit then
      match readPowerDigits (digit.toNat - '0'.toNat) rest with
      | .ok (value, rest) =>
        finishNumber negative significand (if minus then power - value else power + value) rest
      | .error rest =>
        if significand ≠ 0 ∧ ¬ minus then .error (.behind .numberOutOfRange rest)
        else .ok (.floating (.finite negative .zero), rest.dropWhile Char.isDigit)
    else .error (.atNext .invalidNumber (digit :: rest))

/-- What may follow the digits: a power of ten, or nothing. -/
def readScaled (negative : Bool) (significand : Nat) (power : Int) : Reader Numeral
  | 'e' :: rest => readPower negative significand power rest
  | 'E' :: rest => readPower negative significand power rest
  | rest => finishNumber negative significand power rest

/-- A fraction behind its point. -/
def readFraction (negative : Bool) (significand : Nat) (power : Int) : Reader Numeral := fun text =>
  match text with
  | [] => .error (.atNext .endInValue [])
  | next :: _ =>
    if next.isDigit then
      let (final, count) := absorb significand (text.takeWhile Char.isDigit)
      readScaled negative final (power - count) (text.dropWhile Char.isDigit)
    else .error (.atNext .invalidNumber text)

/-- An integer of 64 bits, where minus zero and what does not fit with its sign is a double. -/
def wholeNumber (negative : Bool) (significand : Nat) : Numeral :=
  if negative then
    if significand = 0 ∨ 1 <<< 63 < significand then
      .floating (.ofMagnitude? true (Magnitude.ofNat? significand))
    else .integer (-significand)
  else .integer significand

/-- A number behind its sign. -/
def readUnsigned (negative : Bool) : Reader Numeral
  | [] => .error (.behind .endInValue [])
  | first :: text =>
    if ¬ first.isDigit then .error (.atNext .invalidNumber (first :: text))
    else if first = '0' ∧ (text.head?.any Char.isDigit) then
      .error (.atNext .invalidNumber text)
    else
      let digits := first :: text.takeWhile Char.isDigit
      let (significand, count) := absorb 0 digits
      let power : Int := digits.length - count
      match text.dropWhile Char.isDigit with
      | '.' :: rest => readFraction negative significand power rest
      | 'e' :: rest => readPower negative significand power rest
      | 'E' :: rest => readPower negative significand power rest
      | rest =>
        if power = 0 then .ok (wholeNumber negative significand, rest)
        else finishNumber negative significand power rest

/-- A number, which begins with a minus sign or a digit. -/
def readNumber : Reader Numeral
  | '-' :: text => readUnsigned true text
  | text => readUnsigned false text

end RecordRules.Json
