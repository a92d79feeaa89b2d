import BoundedText.Buffer
import BoundedText.Fault

namespace BoundedText

/-- A base from eight to sixteen with a glyph for each of its digits. -/
structure Radix where
  base : Nat
  glyphs : Bytes
  base_bounds : 8 ≤ base ∧ base ≤ 16
  base_le_glyphs : base ≤ glyphs.length
deriving DecidableEq

namespace Radix

def lowerGlyphs : Bytes :=
  [0x30, 0x31, 0x32, 0x33, 0x34, 0x35, 0x36, 0x37, 0x38, 0x39, 0x61, 0x62, 0x63, 0x64, 0x65, 0x66]

def upperGlyphs : Bytes :=
  [0x30, 0x31, 0x32, 0x33, 0x34, 0x35, 0x36, 0x37, 0x38, 0x39, 0x41, 0x42, 0x43, 0x44, 0x45, 0x46]

def octal : Radix := ⟨8, lowerGlyphs, by decide, by decide⟩
def decimal : Radix := ⟨10, lowerGlyphs, by decide, by decide⟩
def lowerHex : Radix := ⟨16, lowerGlyphs, by decide, by decide⟩
def upperHex : Radix := ⟨16, upperGlyphs, by decide, by decide⟩

def ofGlyphs (base : Nat) (glyphs : Bytes) : Except Fault Radix :=
  if bounds : (8 ≤ base ∧ base ≤ 16) ∧ base ≤ glyphs.length then
    .ok ⟨base, glyphs, bounds.1, bounds.2⟩
  else
    .error (.invalidRadix base glyphs.length)

def digits (radix : Radix) (value : Nat) : List Nat :=
  if value < radix.base then [value] else radix.digits (value / radix.base) ++ [value % radix.base]
termination_by value
decreasing_by
  have bounds := radix.base_bounds
  exact Nat.div_lt_self (by omega) (by omega)

def glyph (radix : Radix) (digit : Nat) : UInt8 := radix.glyphs.getD digit 0

def numeral (radix : Radix) (value : Nat) : Bytes := (radix.digits value).map radix.glyph

def maxDigits : Nat := 22

theorem digits_of_lt {radix : Radix} {value : Nat} (small : value < radix.base) :
    radix.digits value = [value] := by
  rw [digits, if_pos small]

theorem digits_of_le {radix : Radix} {value : Nat} (large : radix.base ≤ value) :
    radix.digits value = radix.digits (value / radix.base) ++ [value % radix.base] := by
  rw [digits, if_neg (Nat.not_lt.mpr large)]

theorem length_digits_le (radix : Radix) (length value : Nat) (positive : 0 < length)
    (small : value < Nat.pow 8 length) : (radix.digits value).length ≤ length := by
  have bounds := radix.base_bounds
  induction length generalizing value with
  | zero => omega
  | succ length ih =>
    by_cases single : value < radix.base
    · rw [digits_of_lt single, List.length_singleton]
      omega
    · have quotient : value / radix.base < Nat.pow 8 length := by
        refine Nat.lt_of_le_of_lt (Nat.div_le_div_left bounds.1 (by omega)) ?_
        simp only [Nat.pow, Nat.mul_eq] at small
        omega
      have nonempty : 0 < length := by
        apply Nat.pos_of_ne_zero
        rintro rfl
        simp only [Nat.pow, Nat.mul_eq] at small
        omega
      rw [digits_of_le (by omega), List.length_append, List.length_singleton]
      have shorter := ih _ nonempty quotient
      omega

theorem length_numeral_le_maxDigits (radix : Radix) (value : UInt64) :
    (radix.numeral value.toNat).length ≤ maxDigits := by
  rw [numeral, List.length_map]
  have bound := value.toNat_lt
  refine radix.length_digits_le _ _ (by decide) (Nat.lt_of_lt_of_le bound (by decide))

end Radix

def Buffer.putNumeral (buffer : Buffer) (radix : Radix) (value : Nat) : Buffer :=
  buffer.copy (radix.numeral value) none

end BoundedText
