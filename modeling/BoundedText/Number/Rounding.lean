import BoundedText.Number.Binary64
import BoundedText.Numeral

namespace BoundedText.Decimal

def tenTo (power : Nat) : Nat := Nat.pow 10 power

/-- The whole number nearest to a quotient, the even one of two that are equally near. -/
def roundQuotient (numerator denominator : Nat) : Nat :=
  let quotient := numerator / denominator
  match compare (2 * (numerator % denominator)) denominator with
  | .lt => quotient
  | .gt => quotient + 1
  | .eq => if quotient % 2 = 0 then quotient else quotient + 1

def digitCount (value : Nat) : Nat := (Radix.decimal.digits value).length

/-- The exponent of the largest power of ten that is at most a positive quotient. -/
def leadingExponent (numerator denominator : Nat) : Int :=
  if denominator ≤ numerator then
    digitCount (numerator / denominator) - 1
  else
    -digitCount ((denominator - 1) / numerator)

def roundToExponent (magnitude : Magnitude) (exponent : Int) : Nat :=
  roundQuotient (magnitude.numerator * tenTo (-exponent).toNat) (magnitude.denominator * tenTo exponent.toNat)

/-- A decimal fraction units / 10^places in the pieces it is written in. At least one digit stands
    before the point, and there is no point without places. -/
def pointPieces (units places : Nat) : List Bytes :=
  let numeral := Radix.decimal.numeral units
  let digits := List.replicate (places + 1 - numeral.length) Ascii.zero ++ numeral
  let whole := digits.length - places
  if places = 0 then [digits] else [digits.take whole, [Ascii.point], digits.drop whole]

def exponentNumeral (exponent : Int) : Bytes :=
  if exponent < 0 then Ascii.minus :: Radix.decimal.numeral exponent.natAbs
  else Radix.decimal.numeral exponent.natAbs

def fixedPieces (places : Nat) (magnitude : Magnitude) : List Bytes :=
  pointPieces (roundToExponent magnitude (-places)) places

/-- One digit, so many decimal places, and the power of ten they are multiplied by. Rounding up to
    the next power of ten moves on to that power. -/
def exponentPieces (mark : UInt8) (places : Nat) (magnitude : Magnitude) : List Bytes :=
  if magnitude.isZero then
    pointPieces 0 places ++ [[mark], exponentNumeral 0]
  else
    let exponent := leadingExponent magnitude.numerator magnitude.denominator
    let units := roundToExponent magnitude (exponent - places)
    if units = tenTo (places + 1) then
      pointPieces (tenTo places) places ++ [[mark], exponentNumeral (exponent + 1)]
    else
      pointPieces units places ++ [[mark], exponentNumeral exponent]

end BoundedText.Decimal
