import RecordRules.Number.Decimal

/-!
# Numbers read from text

The text of a number is an optional sign and then either a name of infinity or of not a number,
in any letter case, or decimal digits with an optional point and an optional power of ten. There
is a digit on at least one side of the point. Blanks, separators and other bases are refused.
The value is the nearest double, so too large a number reads as infinity.
-/

namespace RecordRules.Number

/-- Why a text is not a number. -/
inductive NumberFault
  | empty
  | malformed
  deriving DecidableEq

/-- The wording of a refusal. -/
def NumberFault.message : NumberFault → String
  | empty => "cannot parse float from empty string"
  | malformed => "invalid float literal"

namespace Decimal

/-- The number written by decimal digits. -/
def ofDigits (digits : List Char) : Nat := Nat.ofDigitChars 10 digits 0

/-- Splits a sign off the front; the flag is set by a minus sign. -/
def splitSign : List Char → Bool × List Char
  | '-' :: rest => (true, rest)
  | '+' :: rest => (false, rest)
  | text => (false, text)

/-- The power of ten after its mark: an optional sign and at least one digit, up to the end. -/
def readPower? (text : List Char) : Option Int :=
  let (negative, digits) := splitSign text
  if digits ≠ [] ∧ digits.all Char.isDigit then
    some (if negative then -(ofDigits digits : Int) else ofDigits digits)
  else none

/-- The power of ten that ends a number, zero if there is none. -/
def readEnding? : List Char → Option Int
  | [] => some 0
  | 'e' :: power => readPower? power
  | 'E' :: power => readPower? power
  | _ => none

/-- The digits after a point and what follows them; without a point there are none. -/
def splitFraction : List Char → List Char × List Char
  | '.' :: rest => (rest.takeWhile Char.isDigit, rest.dropWhile Char.isDigit)
  | text => ([], text)

/-- A decimal without its sign. -/
def read? (text : List Char) : Option Decimal :=
  let whole := text.takeWhile Char.isDigit
  let (fraction, ending) := splitFraction (text.dropWhile Char.isDigit)
  if whole ++ fraction = [] then none
  else
    (readEnding? ending).map fun power => ⟨ofDigits (whole ++ fraction), power - fraction.length⟩

end Decimal

namespace Binary64

/-- A value by its name, in any letter case. -/
def named? (negative : Bool) (text : List Char) : Option Binary64 :=
  let name := String.ofList (text.map Char.toLower)
  if name = "inf" ∨ name = "infinity" then some (infinite negative)
  else if name = "nan" then some nan
  else none

/-- Reads the text of a number. -/
def read (text : List Char) : Except NumberFault Binary64 :=
  if text = [] then .error .empty
  else
    let (negative, unsigned) := Decimal.splitSign text
    match Decimal.read? unsigned with
    | some decimal => .ok (decimal.toBinary64 negative)
    | none =>
      match named? negative unsigned with
      | some value => .ok value
      | none => .error .malformed

end Binary64

example : (Binary64.read ".5".toList).toOption = (Binary64.read "+5.e-1".toList).toOption := by
  decide +kernel

example : (Binary64.read "1e400".toList).toOption = some (.infinite false) := by decide +kernel

example : (Binary64.read "1_0".toList).toOption = none := by decide +kernel

end RecordRules.Number
