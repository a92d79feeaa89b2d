import BoundedText.Number.Rounding

namespace BoundedText.Decimal

def compareScaled (count : Nat) (decimal : Int) (units : Nat) (binary : Int) : Ordering :=
  compare ((count * tenTo decimal.toNat) <<< (-binary).toNat) ((units * tenTo (-decimal).toNat) <<< binary.toNat)

def narrowBelow (magnitude : Magnitude) : Bool :=
  magnitude.significand == Binary64.leadingBit && magnitude.exponent > -1074

/-- No other binary number is nearer to count * 10^exponent than this one. A decimal halfway to a
    neighbour counts as this one when its significand is even. -/
def readsBack (magnitude : Magnitude) (count : Nat) (exponent : Int) : Bool :=
  let below := 4 * magnitude.significand - if narrowBelow magnitude then 1 else 2
  let above := 4 * magnitude.significand + 2
  let inclusive := magnitude.significand % 2 == 0
  let toBelow := compareScaled count exponent below (magnitude.exponent - 2)
  let toAbove := compareScaled count exponent above (magnitude.exponent - 2)
  (toBelow == .gt || inclusive && toBelow == .eq) && (toAbove == .lt || inclusive && toAbove == .eq)

def nearestReadingBack (magnitude : Magnitude) (exponent : Int) : Option Nat :=
  let lower := magnitude.numerator * tenTo (-exponent).toNat / (magnitude.denominator * tenTo exponent.toNat)
  match readsBack magnitude lower exponent, readsBack magnitude (lower + 1) exponent with
  | true, true =>
    if compareScaled (2 * lower + 1) exponent (2 * magnitude.significand) magnitude.exponent == .gt then lower
    else some (lower + 1)
  | true, false => some lower
  | false, true => some (lower + 1)
  | false, false => none

def exactPieces (magnitude : Magnitude) : List Bytes :=
  let places := (-magnitude.exponent).toNat
  pointPieces (magnitude.numerator * tenTo places / magnitude.denominator) places

/-- The decimal of the fewest digits that reads back, written without an exponent. The grids of
    multiples become finer until one holds such a decimal, and seventeen digits always do. -/
def shortestPieces (magnitude : Magnitude) : List Bytes :=
  if magnitude.isZero then pointPieces 0 0
  else
    let leading := leadingExponent magnitude.numerator magnitude.denominator
    let hit := (List.range 18).findSome? fun (digits : Nat) =>
      let exponent := leading + 1 - (digits : Int)
      (nearestReadingBack magnitude exponent).map fun count => (count, exponent)
    match hit with
    | some (count, exponent) => pointPieces (count * tenTo exponent.toNat) (-exponent).toNat
    | none => exactPieces magnitude

end BoundedText.Decimal
