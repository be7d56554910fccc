import RecordRules.Number.Magnitude

/-!
# Double precision numbers

The values of the IEEE 754 double format: signed magnitudes, two infinities and one value that
is not a number. The two zeros differ in sign, compare equal and print differently. A comparison
with a value that is not a number never holds, except that it is unequal to everything.
-/

namespace RecordRules.Number

/-- A double precision number. -/
inductive Binary64
  | nan
  | infinite (negative : Bool)
  | finite (negative : Bool) (magnitude : Magnitude)
  deriving DecidableEq

namespace Binary64

/-- A signed magnitude, where no magnitude stands for one too large to be finite. -/
def ofMagnitude? (negative : Bool) : Option Magnitude → Binary64
  | some magnitude => finite negative magnitude
  | none => infinite negative

/-- The double nearest to an integer. -/
def ofInt (number : Int) : Binary64 :=
  ofMagnitude? (decide (number < 0)) (Magnitude.ofNat? number.natAbs)

/-- The order of the numbers as integers: signed ranks, the infinities beyond every magnitude.
What is not a number has no place in it. -/
def rank? : Binary64 → Option Int
  | nan => none
  | infinite negative => some (if negative then -Magnitude.rankBound else Magnitude.rankBound)
  | finite negative magnitude => some (if negative then -magnitude.rank else magnitude.rank)

/-- A relation of ranks as a relation of numbers. It fails where one of them is not a number. -/
def related (relation : Int → Int → Bool) (left right : Binary64) : Bool :=
  match left.rank?, right.rank? with
  | some left, some right => relation left right
  | _, _ => false

/-- Equal numbers; the zeros are, and what is not a number is not even equal to itself. -/
def equals : Binary64 → Binary64 → Bool := related fun left right => decide (left = right)

/-- The left number is the smaller one. -/
def below : Binary64 → Binary64 → Bool := related fun left right => decide (left < right)

/-- The left number is the smaller one or they are equal. -/
def atMost : Binary64 → Binary64 → Bool := related fun left right => decide (left ≤ right)

end Binary64

end RecordRules.Number
