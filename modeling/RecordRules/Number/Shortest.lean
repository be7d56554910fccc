import RecordRules.Number.Decimal

/-!
# The shortest decimal of a magnitude

Every magnitude is written with the fewest digits that read back as the same magnitude. For a
number of digits the only candidates are the two neighbours of the value on the grid of decimals
with that many digits. The first grid with a neighbour that reads back decides; of two such
neighbours the nearer one is taken, and the upper one if both are equally near.

Seventeen digits always suffice. The exact expansion, which trivially reads back, stands behind
them, so reading back holds by construction.
-/

namespace RecordRules.Number

namespace Magnitude

/-- The number of decimal places before the point of a positive magnitude, negative if zeros
follow the point: ten to that power is the first power of ten above the value. -/
def places (magnitude : Magnitude) : Int :=
  (Nat.toDigits 10 (magnitude.units * tenTo 400 / unitsInOne)).length - 400

/-- Every finite magnitude as an exact decimal. -/
def exact (magnitude : Magnitude) : Decimal := ⟨magnitude.units * Nat.pow 5 1074, -1074⟩

/-- The neighbours of the value on the grid with this step, the better one first. -/
def neighbours (magnitude : Magnitude) (step : Int) : List Decimal :=
  let dividend := if 0 ≤ step then magnitude.units else magnitude.units * tenTo (-step).toNat
  let divisor := if 0 ≤ step then unitsInOne * tenTo step.toNat else unitsInOne
  let below : Decimal := ⟨dividend / divisor, step⟩
  let above : Decimal := ⟨dividend / divisor + 1, step⟩
  if 2 * (dividend % divisor) < divisor then [below, above] else [above, below]

/-- Whether a decimal rounds to the magnitude. -/
def readsBack (magnitude : Magnitude) (decimal : Decimal) : Bool :=
  decide (decimal.nearest? = some magnitude)

/-- The better neighbour that reads back on the grid with this many digits, if there is one. -/
def withDigits? (magnitude : Magnitude) (count : Nat) : Option Decimal :=
  (magnitude.neighbours (magnitude.places - count)).find? magnitude.readsBack

/-- The decimal with the fewest digits that reads back as the magnitude. -/
def shortest (magnitude : Magnitude) : Decimal :=
  if magnitude.significand = 0 then ⟨0, 0⟩
  else
    (((List.range' 1 17).findSome? magnitude.withDigits?).getD magnitude.exact).trimmed

end Magnitude

/-- How numbers are written where a condition or a record is turned into text: the shortest
digits, always positionally, with the sign of a zero kept. -/
def Binary64.text : Binary64 → List Char
  | .nan => "NaN".toList
  | .infinite negative => (if negative then "-inf" else "inf").toList
  | .finite negative magnitude =>
    (if negative then ['-'] else []) ++ magnitude.shortest.positional

/-- Of two equally near candidates the upper one is written. -/
example : (Decimal.toBinary64 false ⟨206799401538693025, -2⟩).text = "2067994015386930.3".toList := by
  decide +kernel

example : (Decimal.toBinary64 true ⟨1, 21⟩).text = "-1000000000000000000000".toList := by
  decide +kernel

end RecordRules.Number
