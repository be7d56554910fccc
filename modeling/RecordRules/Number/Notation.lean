import RecordRules.Number.Shortest

/-!
# Numbers with a mark

Messages about a document show a number so that it cannot be taken for an integer: the shortest
digits with a point, or with a power of ten where the number is very large or very small.
-/

namespace RecordRules.Number

/-- The digits with a point after the first of them, if more follow, and a power of ten. -/
def scientific (digits : List Char) (power : Int) : List Char :=
  let fraction := if digits.drop 1 = [] then [] else '.' :: digits.drop 1
  digits.take 1 ++ fraction ++ ['e'] ++ (toString power).toList

/-- A decimal with a point or a power of ten. Up to sixteen places before the point and up to
four zeros after it are written out. -/
def Decimal.marked (decimal : Decimal) : List Char :=
  let digits := Nat.toDigits 10 decimal.digits
  let places := decimal.exponent + digits.length
  if decimal.digits = 0 then ['0', '.', '0']
  else if 0 ≤ decimal.exponent ∧ places ≤ 16 then decimal.positional ++ ['.', '0']
  else if -5 < places ∧ places ≤ 16 then decimal.positional
  else scientific digits (places - 1)

/-- The text of a number in a message about a document. -/
def Binary64.markedText : Binary64 → List Char
  | .nan => "NaN".toList
  | .infinite negative => (if negative then "-inf" else "inf").toList
  | .finite negative magnitude =>
    (if negative then ['-'] else []) ++ magnitude.shortest.marked

end RecordRules.Number
