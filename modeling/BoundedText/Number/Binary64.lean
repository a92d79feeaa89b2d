namespace BoundedText

structure Binary64 where
  bits : UInt64
deriving DecidableEq, Repr

structure Magnitude where
  significand : Nat
  exponent : Int
deriving DecidableEq, Repr

namespace Magnitude

def isZero (magnitude : Magnitude) : Bool := magnitude.significand == 0

def numerator (magnitude : Magnitude) : Nat := magnitude.significand <<< magnitude.exponent.toNat

def denominator (magnitude : Magnitude) : Nat := 1 <<< (-magnitude.exponent).toNat

end Magnitude

namespace Binary64

inductive Content where
  | nan
  | infinite
  | finite (magnitude : Magnitude)
deriving DecidableEq, Repr

def signBit (number : Binary64) : Bool := number.bits >>> 63 == 1

def exponentField (number : Binary64) : Nat := ((number.bits >>> 52) &&& 0x7ff).toNat

def fraction (number : Binary64) : Nat := (number.bits &&& 0xfffffffffffff).toNat

def leadingBit : Nat := 0x10000000000000

/-- Subnormal numbers share the least exponent and lack the leading one. -/
def content (number : Binary64) : Content :=
  if number.exponentField = 0x7ff then
    if number.fraction = 0 then .infinite else .nan
  else if number.exponentField = 0 then
    .finite ⟨number.fraction, -1074⟩
  else
    .finite ⟨leadingBit + number.fraction, number.exponentField - 1075⟩

def isNegative (number : Binary64) : Bool := number.signBit && number.content != .nan

def ofFloat (number : Float) : Binary64 := ⟨number.toBits⟩

def ofSingle (bits : UInt32) : Binary64 := ofFloat (Float32.ofBits bits).toFloat

end Binary64

end BoundedText
