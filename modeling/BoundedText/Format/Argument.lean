import BoundedText.Bytes
import BoundedText.Format.Conversion
import BoundedText.Number.Binary64

namespace BoundedText

/-- A machine word. Whether its leading bit is a sign is up to the conversion that reads it. -/
structure Word where
  width : Nat
  bits : BitVec width
deriving DecidableEq, Repr

namespace Word

def ofInt (width : Nat) (value : Int) : Word := ⟨width, BitVec.ofInt width value⟩

def signed (word : Word) : Int := word.bits.toInt

def unsigned (word : Word) : Nat := word.bits.toNat

def widthUnder (word : Word) : Length → Nat
  | .hh => min word.width 8
  | .h => min word.width 16
  | _ => word.width

def narrow (word : Word) (length : Length) : Word :=
  ⟨word.widthUnder length, word.bits.setWidth (word.widthUnder length)⟩

def lowByte (word : Word) : UInt8 := UInt8.ofNat word.unsigned

end Word

inductive Argument where
  | word (word : Word)
  | char (char : Char)
  | text (bytes : Bytes)
  | real (number : Binary64)
deriving DecidableEq, Repr

namespace Argument

def ofBool (value : Bool) : Argument := word (.ofInt 32 (if value then 1 else 0))

def word? : Argument → Option Word
  | .word held => some held
  | .char scalar => some (.ofInt 32 scalar.toNat)
  | .text _ | .real _ => none

end Argument

/-- What becomes of real numbers: a fixed word in their place, or their digits. -/
inductive RealMode where
  | placeholder
  | digits
deriving DecidableEq, Repr

end BoundedText
